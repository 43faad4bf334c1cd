import ReservoirGas.Proofs.Binary64.Values
import ReservoirGas.Proofs.Json.Numerals

namespace ReservoirGas

open Binary64 (toRat? signed rational?)
open Float.Model (UnpackedFloat)
open Float.Model.UnpackedFloat
open Float.Model.Format (exponentBias mantissaBitsWithoutImplicit)

namespace Binary

theorem toNat_unpackExponent (x : Float) :
    (@unpackExponent .binary64 x.toModel.toBits.toBitVec).toNat =
      x.toBits.toNat / fractionSize % exponentSize := by
  have hfield : x.toBits.toNat / fractionSize % exponentSize = x.toModel.toBits.toNat / 2 ^ 52 % 2 ^ 11 := rfl
  simp [hfield, unpackExponent, Nat.shiftRight_eq_div_pow]

theorem toNat_unpackMantissa (x : Float) :
    (@unpackMantissa .binary64 x.toModel.toBits.toBitVec).toNat = x.toBits.toNat % fractionSize := by
  have hfield : x.toBits.toNat % fractionSize = x.toModel.toBits.toNat % 2 ^ 52 := rfl
  simp [hfield, unpackMantissa]

theorem isNegative_iff (x : Float) : isNegative x = true ↔ 2 ^ 63 ≤ x.toBits.toNat := by
  have hlt : x.toBits.toNat < 2 ^ 64 := x.toBits.toNat_lt
  have hsize : fractionSize * exponentSize = 2 ^ 63 := rfl
  rw [isNegative, hsize, beq_iff_eq]
  omega

theorem abs_signed_mul_zpow (s : Sign) (m : ℕ) (q : ℤ) : |signed s (m * 2 ^ q)| = m * 2 ^ q :=
  (Binary64.abs_signed s _).trans (abs_of_nonneg (mul_nonneg m.cast_nonneg (Binary64.two_zpow_pos q).le))

/-- The magnitude that is read from the fields of a number is that of its value. -/
theorem ofFloat_cases (x : Float) :
    x.isNaN = true ∧ ofFloat x = .nan ∨
    x.isNaN = false ∧ toRat? x = none ∧ ofFloat x = .infinite ∨
    x.isNaN = false ∧ ∃ v m q, toRat? x = some v ∧ ofFloat x = .finite m q ∧ |v| = m * 2 ^ q := by
  have hunpack : x.toModel.unpack = UnpackedFloat.unpack .binary64 x.toModel.toBits.toBitVec := rfl
  have hbias : (exponentBias .binary64 : ℤ) + mantissaBitsWithoutImplicit .binary64 = 1075 := rfl
  have hmax : (@unpackExponent .binary64 x.toModel.toBits.toBitVec).toNat = exponentSize - 1 ↔
      @unpackExponent .binary64 x.toModel.toBits.toBitVec = -1#_ := BitVec.toNat_inj (y := -1#_)
  have hleast : (@unpackExponent .binary64 x.toModel.toBits.toBitVec).toNat = 0 ↔
      @unpackExponent .binary64 x.toModel.toBits.toBitVec = 0#_ := BitVec.toNat_inj (y := 0#_)
  have hzero : (@unpackMantissa .binary64 x.toModel.toBits.toBitVec).toNat = 0 ↔
      @unpackMantissa .binary64 x.toModel.toBits.toBitVec = 0#_ := BitVec.toNat_inj (y := 0#_)
  have hnan : x.isNaN = x.toModel.unpack.isNaN := rfl
  rw [UnpackedFloat.unpack] at hunpack
  rw [hnan, toRat?, hunpack, ofFloat]
  simp only [← toNat_unpackExponent, ← toNat_unpackMantissa, hmax, hleast]
  split
  · simp only [hzero]
    split
    · exact .inr (.inl ⟨rfl, rfl, rfl⟩)
    · exact .inl ⟨rfl, rfl⟩
  · right
    right
    split
    · rename_i hexponent
      split
      · rename_i hmantissa
        refine ⟨rfl, 0, _, _, rfl, rfl, ?_⟩
        rw [hzero.mpr hmantissa]
        simp
      · refine ⟨rfl, _, _, _, rfl, rfl, ?_⟩
        rw [abs_signed_mul_zpow, hbias, hexponent]
        rfl
    · refine ⟨rfl, _, _, _, rfl, rfl, ?_⟩
      rw [abs_signed_mul_zpow, hbias, Binary64.toNat_append_one, Nat.add_comm]
      rfl

end Binary

namespace Decimal

/-- The natural number nearest to `v`; of two such, the even one. -/
def nearestEven (v : ℚ) : ℕ :=
  if v - ⌊v⌋₊ < 1 / 2 ∨ v - ⌊v⌋₊ = 1 / 2 ∧ Even ⌊v⌋₊ then ⌊v⌋₊ else ⌊v⌋₊ + 1

theorem nearestEven_le {v : ℚ} {n : ℕ} (h : v ≤ n) : nearestEven v ≤ n := by
  have hfloor : ⌊v⌋₊ ≤ n := Nat.floor_le_of_le h
  rw [nearestEven]
  split
  · exact hfloor
  · rename_i hup
    rcases hfloor.lt_or_eq with hlt | heq
    · exact hlt
    · have hzero : v - ⌊v⌋₊ ≤ 0 := by
        rw [heq]
        linarith
      exact absurd (.inl (by linarith)) hup

theorem le_nearestEven {v : ℚ} {n : ℕ} (h : n ≤ v) : n ≤ nearestEven v := by
  have hfloor : n ≤ ⌊v⌋₊ := Nat.le_floor h
  rw [nearestEven]
  split <;> omega

theorem nearest_eq (num : ℕ) {den : ℕ} (hden : 0 < den) : nearest num den = nearestEven (num / den) := by
  have hfloor : ⌊(num / den : ℚ)⌋₊ = num / den := Nat.floor_div_eq_div num den
  have hpos : (0 : ℚ) < den := by exact_mod_cast hden
  have hrest : (num / den : ℚ) - (num / den : ℕ) = (num % den : ℕ) / den := by
    have hdecompose : (num : ℚ) = den * (num / den : ℕ) + (num % den : ℕ) := by
      exact_mod_cast (Nat.div_add_mod num den).symm
    field_simp
    linarith
  have hlt : ((num % den : ℕ) / den : ℚ) < 1 / 2 ↔ 2 * (num % den) < den := by
    rw [div_lt_div_iff₀ hpos two_pos]
    norm_cast
    omega
  have heq : ((num % den : ℕ) / den : ℚ) = 1 / 2 ↔ 2 * (num % den) = den := by
    rw [div_eq_div_iff hpos.ne' two_ne_zero]
    norm_cast
    omega
  simp only [nearest, nearestEven, hfloor, hrest, hlt, heq, Nat.even_iff]
  split <;> split <;> omega

theorem zpow_natAbs (b : ℚ) (k : ℤ) : b ^ k = if k < 0 then (b ^ k.natAbs)⁻¹ else b ^ k.natAbs := by
  split
  · rw [← zpow_natCast, ← zpow_neg]
    congr 1
    omega
  · rw [← zpow_natCast]
    congr 1
    omega

theorem value_inUnits (num : ℕ) {den : ℕ} (hden : 0 < den) (k : ℤ) :
    0 < (inUnits num den k).2 ∧
    ((inUnits num den k).1 / (inUnits num den k).2 : ℚ) = num / den / 10 ^ k := by
  have hpower : ((powerOfTen k.natAbs : ℕ) : ℚ) = 10 ^ k.natAbs := Nat.cast_pow 10 k.natAbs
  have hpos : 0 < powerOfTen k.natAbs := Nat.pow_pos (by decide)
  rw [inUnits, zpow_natAbs]
  split
  · refine ⟨hden, ?_⟩
    rw [Nat.cast_mul, hpower, div_inv_eq_mul]
    exact mul_div_right_comm _ _ _
  · refine ⟨Nat.mul_pos hden hpos, ?_⟩
    rw [Nat.cast_mul, hpower, div_div]

theorem digits_roundTo (num : ℕ) {den : ℕ} (hden : 0 < den) (k : ℤ) :
    roundTo k num den = ⟨nearestEven (num / den / 10 ^ k), k⟩ := by
  obtain ⟨hpos, hvalue⟩ := value_inUnits num hden k
  rw [roundTo]
  simp only [nearest_eq _ hpos, hvalue]

theorem value_fraction (m : ℕ) (q : ℤ) : 0 < (Binary.fraction m q).2 ∧
    ((Binary.fraction m q).1 / (Binary.fraction m q).2 : ℚ) = m * 2 ^ q := by
  have hpower : ((Binary.powerOfTwo q.natAbs : ℕ) : ℚ) = 2 ^ q.natAbs := Nat.cast_pow 2 q.natAbs
  rw [Binary.fraction, zpow_natAbs]
  split
  · refine ⟨Nat.pow_pos (by decide), ?_⟩
    rw [hpower, div_eq_mul_inv]
  · refine ⟨Nat.one_pos, ?_⟩
    rw [Nat.cast_mul, hpower, Nat.cast_one, div_one]

theorem length_digitChars_le_iff {n k : ℕ} (hk : 0 < k) : (digitChars n).length ≤ k ↔ n < 10 ^ k :=
  Nat.length_toDigits_le_iff (by decide) hk

theorem width_le_iff {n k : ℕ} : width n ≤ k ↔ n < 10 ^ k := by
  rw [width]
  split
  · rename_i hn
    simp [hn]
  · rename_i hn
    cases k with
    | zero => simp [digitChars_ne_nil, hn]
    | succ k => exact length_digitChars_le_iff k.succ_pos

theorem leadingPower_eq {num den : ℕ} (hnum : 0 < num) (hden : 0 < den) :
    leadingPower num den = Int.log 10 (num / den : ℚ) := by
  have hnum' : (0 : ℚ) < num := by exact_mod_cast hnum
  have hden' : (0 : ℚ) < den := by exact_mod_cast hden
  rw [leadingPower]
  split
  · rename_i hle
    have hone : (1 : ℚ) ≤ num / den := by
      rw [one_le_div hden']
      exact_mod_cast hle
    have hquotient : num / den ≠ 0 := (Nat.div_pos hle hden).ne'
    have hwidth : width (num / den) = Nat.log 10 (num / den) + 1 := by
      refine eq_of_forall_ge_iff fun k ↦ ?_
      rw [width_le_iff, Nat.succ_le_iff, Nat.log_lt_iff_lt_pow (by decide) hquotient]
    rw [Int.log_of_one_le_right 10 hone, Nat.floor_div_eq_div, hwidth]
    push_cast
    ring
  · rename_i hlt
    have hone : (num / den : ℚ) ≤ 1 := by
      rw [div_le_one hden']
      exact_mod_cast (Nat.lt_of_not_le hlt).le
    have hwidth : width ((den - 1) / num) = Nat.clog 10 ⌈(num / den : ℚ)⁻¹⌉₊ := by
      refine eq_of_forall_ge_iff fun k ↦ ?_
      rw [width_le_iff, Nat.clog_le_iff_le_pow (by decide), Nat.ceil_le, inv_div, div_le_iff₀ hnum',
        Nat.div_lt_iff_lt_mul hnum]
      norm_cast
      omega
    rw [Int.log_of_right_le_one 10 hone, hwidth]

theorem roundDigits_eq (places : ℕ) {num den : ℕ} (hnum : 0 < num) (hden : 0 < den) :
    let e := Int.log 10 (num / den : ℚ)
    let n := nearestEven (num / den / 10 ^ (e - places))
    10 ^ places ≤ n ∧ n ≤ 10 ^ (places + 1) ∧
    roundDigits places num den =
      if n = 10 ^ (places + 1) then ⟨10 ^ places, e - places + 1⟩ else ⟨n, e - places⟩ := by
  intro e n
  have hvalue : (0 : ℚ) < num / den := div_pos (by exact_mod_cast hnum) (by exact_mod_cast hden)
  have hunit : (0 : ℚ) < 10 ^ (e - places) := by positivity
  refine ⟨le_nearestEven ?_, nearestEven_le ?_, ?_⟩
  · rw [le_div_iff₀ hunit, Nat.cast_pow, ← zpow_natCast, Nat.cast_ofNat, ← zpow_add₀ (by norm_num),
      add_sub_cancel]
    exact Int.zpow_log_le_self (by decide) hvalue
  · rw [div_le_iff₀ hunit, Nat.cast_pow, ← zpow_natCast, Nat.cast_ofNat, ← zpow_add₀ (by norm_num)]
    have hexponent : ((places + 1 : ℕ) : ℤ) + (e - places) = e + 1 := by
      push_cast
      ring
    rw [hexponent]
    exact (Int.lt_zpow_succ_log_self (by decide) _).le
  · rw [roundDigits, if_neg hnum.ne', leadingPower_eq hnum hden]
    simp only [digits_roundTo num hden]
    rfl

/-- The last digits of `n`, so many of them that they fill the places behind a point. -/
def lastDigits : ℕ → ℕ → List Char
  | 0, _ => []
  | places + 1, n => lastDigits places (n / 10) ++ [(n % 10).digitChar]

theorem length_lastDigits (places n : ℕ) : (lastDigits places n).length = places := by
  induction places generalizing n with
  | zero => rfl
  | succ places ih => rw [lastDigits, List.length_append, ih, List.length_singleton]

theorem padded_succ (n places : ℕ) : padded n (places + 1) = padded (n / 10) places ++ [(n % 10).digitChar] := by
  rw [padded, padded, digitChars, digitChars, Nat.toDigits_eq_if (by decide)]
  split
  · rename_i hlt
    rw [Nat.div_eq_of_lt hlt, Nat.mod_eq_of_lt hlt]
    simp [List.replicate_succ']
  · rw [List.length_append, List.length_singleton, Nat.add_sub_add_right, List.append_assoc]

theorem padded_eq (n places : ℕ) : padded n places = digitChars (n / 10 ^ places) ++ lastDigits places n := by
  induction places generalizing n with
  | zero =>
    have hpos : 0 < (digitChars n).length := List.length_pos_iff.mpr (digitChars_ne_nil n)
    rw [padded, Nat.zero_add, Nat.sub_eq_zero_of_le hpos, pow_zero, Nat.div_one, lastDigits, List.append_nil]
    rfl
  | succ places ih =>
    rw [padded_succ, ih, lastDigits, List.append_assoc, Nat.div_div_eq_div_mul, ← pow_succ']

/-- `n` in units of the last of `places` decimals. -/
def pointText (places n : ℕ) : String :=
  toString (n / 10 ^ places) ++ "." ++ String.ofList (lastDigits places n)

theorem pointed_eq (n : ℕ) {places : ℕ} (h : 0 < places) : pointed n places = pointText places n := by
  have hlength : (padded n places).length - places = (digitChars (n / 10 ^ places)).length := by
    rw [padded_eq, List.length_append, length_lastDigits, Nat.add_sub_cancel]
  have hpart : (lastDigits places n).isEmpty = false := by
    rw [List.isEmpty_eq_false_iff, ← List.length_pos_iff, length_lastDigits]
    exact h
  have hpointed : pointed n places =
      let whole := (padded n places).take ((padded n places).length - places)
      let part := (padded n places).drop ((padded n places).length - places)
      String.ofList (if part.isEmpty then whole else whole ++ '.' :: part) := rfl
  rw [hpointed, hlength, padded_eq, List.take_left, List.drop_left]
  simp only [hpart]
  apply String.toList_injective
  simp [pointText, digitChars]

theorem exponential_eq {places n : ℕ} (hplaces : 0 < places) (hlow : 10 ^ places ≤ n)
    (hhigh : n < 10 ^ (places + 1)) (k : ℤ) :
    exponential false ⟨n, k⟩ = pointText places n ++ "e" ++ toString (k + places) := by
  have hlength : (digitChars n).length = places + 1 := by
    apply Nat.le_antisymm
    · exact (length_digitChars_le_iff places.succ_pos).mpr hhigh
    · refine Nat.lt_of_not_le fun hle ↦ ?_
      exact absurd ((length_digitChars_le_iff hplaces).mp hle) (Nat.not_lt_of_le hlow)
  have hmagnitude : (Decimal.mk n k).magnitude = k + places := by
    rw [magnitude, hlength, Nat.add_sub_cancel]
  have hsign (e : ℤ) : (if e < 0 then "-" else "") ++ toString e.natAbs = toString e := by
    cases e with
    | ofNat m => rfl
    | negSucc m =>
      rw [if_pos (Int.negSucc_lt_zero m)]
      rfl
  have hstring (s : String) : toString s = s := rfl
  rw [exponential, hmagnitude, hlength, Nat.add_sub_cancel, pointed_eq n hplaces, ← hsign]
  apply String.toList_injective
  simp [hstring]

/-- A number that is not negative, rounded to so many decimals. -/
def fixedDigits (places : ℕ) (v : ℚ) : String :=
  pointText places (nearestEven (v * 10 ^ places))

/-- A number that is not negative, rounded to so many decimals behind its leading digit. Where rounding
carries into a further digit the exponent is one more. -/
def exponentDigits (places : ℕ) (v : ℚ) : String :=
  if v = 0 then pointText places 0 ++ "e0"
  else
    let e := Int.log 10 v
    let n := nearestEven (v / 10 ^ (e - places))
    if n = 10 ^ (places + 1) then pointText places (10 ^ places) ++ "e" ++ toString (e + 1)
    else pointText places n ++ "e" ++ toString e

/-- A number with its sign, also a zero, or a word for it. -/
def numberText (digits : ℚ → String) (x : Float) : String :=
  if x.isNaN then "NaN"
  else (if 2 ^ 63 ≤ x.toBits.toNat then "-" else "") ++ (toRat? x).elim "inf" fun v ↦ digits |v|

/-- A text that is made from the fields of a number, made from its value. -/
theorem text_ofFloat {digits : ℚ → String} {text : ℕ → ℤ → String} {sign : String} (x : Float)
    (hsign : sign = if Binary.isNegative x then "-" else "")
    (h : ∀ m q, text m q = sign ++ digits (m * 2 ^ q)) :
    (match Binary.ofFloat x with
      | .nan => "NaN"
      | .infinite => sign ++ "inf"
      | .finite m q => text m q) = numberText digits x := by
  simp only [Binary.isNegative_iff] at hsign
  rw [numberText, ← hsign]
  rcases Binary.ofFloat_cases x with ⟨hnan, hx⟩ | ⟨hnan, hvalue, hx⟩ | ⟨hnan, v, m, q, hvalue, hx, habs⟩
  · rw [hx, hnan]
    rfl
  · rw [hx, hnan, hvalue]
    rfl
  · rw [hx, hnan, hvalue, if_neg Bool.false_ne_true, Option.elim_some, habs]
    exact h m q

theorem fixedText_eq {places : ℕ} (h : 0 < places) (x : Float) :
    fixedText places x = numberText (fixedDigits places) x := by
  refine text_ofFloat x rfl fun m q ↦ ?_
  obtain ⟨hden, hfraction⟩ := value_fraction m q
  dsimp only
  rw [digits_roundTo _ hden, hfraction, pointed_eq _ h, fixedDigits, zpow_neg, div_inv_eq_mul, zpow_natCast]

theorem exponentText_eq {places : ℕ} (h : 0 < places) (x : Float) :
    exponentText places x = numberText (exponentDigits places) x := by
  refine text_ofFloat x rfl fun m q ↦ ?_
  obtain ⟨hden, hfraction⟩ := value_fraction m q
  have hvalue : (m * 2 ^ q : ℚ) = 0 ↔ m = 0 := by
    rw [mul_eq_zero, or_iff_left (Binary64.two_zpow_pos q).ne', Nat.cast_eq_zero]
  dsimp only
  rw [exponentDigits]
  by_cases hm : m = 0
  · rw [if_pos hm, if_pos (hvalue.mpr hm), pointed_eq 0 h, String.append_assoc]
  · have hnum : 0 < (Binary.fraction m q).1 := by
      apply Nat.pos_of_ne_zero
      intro hnum
      rw [hnum, Nat.cast_zero, zero_div] at hfraction
      exact hm (hvalue.mp hfraction.symm)
    obtain ⟨hlow, hhigh, hround⟩ := roundDigits_eq places hnum hden
    rw [hfraction] at hlow hhigh hround
    rw [if_neg hm, if_neg (mt hvalue.mp hm), hround]
    congr 1
    dsimp only
    split
    · rw [exponential_eq h le_rfl (Nat.pow_lt_pow_succ (by decide)), add_right_comm, sub_add_cancel]
    · rename_i hne
      rw [exponential_eq h hlow (lt_of_le_of_ne hhigh hne), sub_add_cancel]

end Decimal

end ReservoirGas
