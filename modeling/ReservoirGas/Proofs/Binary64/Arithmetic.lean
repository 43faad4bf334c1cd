import ReservoirGas.Proofs.Binary64.Packing

namespace ReservoirGas.Binary64

open Float.Model (UnpackedFloat)
open Float.Model.UnpackedFloat
open Float.Model.Format (targetExponent)

def signed : Sign → ℚ → ℚ
  | .negative, x => -x
  | .positive, x => x

def rational? : UnpackedFloat → Option ℚ
  | .zero _ => some 0
  | .finite s m e _ => some (signed s (m * 2 ^ e))
  | _ => none

def Representable (t : ℚ) : Prop :=
  OnGrid |t|

/-- No number of the format lies between `v` and `w`. -/
structure Rounded (v w : ℚ) : Prop where
  le_of_le : ∀ t, Representable t → v ≤ t → w ≤ t
  le_of_ge : ∀ t, Representable t → t ≤ v → t ≤ w

theorem Rounded.refl (v : ℚ) : Rounded v v :=
  ⟨fun _ _ h ↦ h, fun _ _ h ↦ h⟩

theorem Representable.neg {t : ℚ} (h : Representable t) : Representable (-t) := by
  rwa [Representable, abs_neg]

theorem Rounded.neg {v w : ℚ} (h : Rounded v w) : Rounded (-v) (-w) where
  le_of_le t ht hv := neg_le.mp (h.le_of_ge (-t) ht.neg (neg_le.mp hv))
  le_of_ge t ht hv := le_neg.mp (h.le_of_le (-t) ht.neg (le_neg.mp hv))

structure Holds (v : ℚ) (f : UnpackedFloat) : Prop where
  canonical : IsCanonical f
  rounded : ∃ w, rational? f = some w ∧ Rounded v w

section Operands

variable {v : ℚ} {r : ℕ} {e : ℤ}

theorem Rounds.rounded (h : Rounds v r e) (hv : 0 ≤ v) : Rounded v (r * 2 ^ e) where
  le_of_le t ht hvt := by
    have hsign : |t| = t := abs_of_nonneg (hv.trans hvt)
    rw [Representable, hsign] at ht
    exact h.le_of_le ht hvt
  le_of_ge t ht htv := by
    rcases le_or_gt 0 t with hsign | hsign
    · rw [Representable, abs_of_nonneg hsign] at ht
      exact h.le_of_ge ht htv
    · have hpos : (0 : ℚ) < 2 ^ e := two_zpow_pos e
      exact hsign.le.trans (by positivity)

theorem rational?_carry (s : Sign) (hr : r ≤ 2 ^ 53) :
    rational? (carry s r e) = some (signed s (r * 2 ^ e)) := by
  rw [carry]
  split
  · rename_i hzero
    cases s <;> simp [hzero, rational?, signed]
  · split
    · rfl
    · obtain rfl : r = 2 ^ 53 := by omega
      have hstep : (2 : ℚ) ^ (e + 1) = 2 ^ e * 2 := by
        rw [zpow_add₀ (by norm_num), zpow_one]
      have hvalue : ((2 ^ 52 : ℕ) * 2 ^ (e + 1) : ℚ) = (2 ^ 53 : ℕ) * 2 ^ e := by
        rw [hstep]
        push_cast
        ring
      rw [rational?, hvalue]

theorem Rounds.holds (h : Rounds v r e) (hv : 0 ≤ v) (s : Sign) : Holds (signed s v) (carry s r e) := by
  refine ⟨isCanonical_carry h s, signed s (r * 2 ^ e), rational?_carry s h.le, ?_⟩
  have hrounded := h.rounded hv
  cases s with
  | positive => exact hrounded
  | negative => exact hrounded.neg

theorem holds_self {f : UnpackedFloat} {x : ℚ} (hf : IsCanonical f) (hx : rational? f = some x) : Holds x f :=
  ⟨hf, x, hx, .refl x⟩

theorem holds_normalize (m : ℤ) (e : ℤ) : Holds (m * 2 ^ e) (normalize .binary64 m e .positive) := by
  have hpow : (0 : ℚ) < 2 ^ e := two_zpow_pos e
  have hmagnitude (s : Sign) {n : ℕ} (hn : n ≠ 0) : Holds (signed s (n * 2 ^ e)) (round .binary64 s n e) := by
    obtain ⟨r, e', hcarry, hrounds⟩ := exists_rounds_round s hn e
    rw [hcarry]
    exact hrounds.holds (by positivity) s
  rw [UnpackedFloat.normalize]
  rcases lt_trichotomy m 0 with hneg | rfl | hpos
  · have hcompare : compare m 0 = .lt := compare_lt_iff_lt.mpr hneg
    obtain ⟨n, rfl⟩ : ∃ n : ℕ, m = -n := ⟨m.natAbs, by omega⟩
    simp only [hcompare, neg_neg, Int.toNat_natCast]
    have hvalue : ((-n : ℤ) * 2 ^ e : ℚ) = signed .negative (n * 2 ^ e) := by
      simp [signed]
    rw [hvalue]
    exact hmagnitude .negative (by omega)
  · have hzero : ((0 : ℤ) * 2 ^ e : ℚ) = 0 := by simp
    rw [hzero]
    exact holds_self trivial rfl
  · have hcompare : compare m 0 = .gt := compare_gt_iff_gt.mpr hpos
    obtain ⟨n, rfl⟩ : ∃ n : ℕ, m = n := ⟨m.natAbs, by omega⟩
    simp only [hcompare, Int.toNat_natCast]
    exact hmagnitude .positive (by omega)

theorem apply_decreaseExponent (s : Sign) (m : ℕ) {e t : ℤ} (h : t ≤ e) :
    (s.apply (decreaseExponent m e t).1 * 2 ^ t : ℚ) = signed s (m * 2 ^ e) := by
  have hvalue : ((decreaseExponent m e t).1 * 2 ^ t : ℚ) = m * 2 ^ e := by
    rw [decreaseExponent, Nat.shiftLeft_eq, natCast_mul_zpow m h]
  cases s with
  | positive => simpa [Sign.apply, signed] using hvalue
  | negative => simpa [Sign.apply, signed] using hvalue

end Operands

section Operations

variable {a b : UnpackedFloat} {x y : ℚ}

theorem holds_add (ha : IsCanonical a) (hb : IsCanonical b) (hx : rational? a = some x)
    (hy : rational? b = some y) : Holds (x + y) (add .binary64 a b) := by
  cases a with
  | notANumber => cases hx
  | infinity s => cases hx
  | zero s =>
    cases hx
    cases b with
    | notANumber => cases hy
    | infinity s' => cases hy
    | zero s' =>
      cases hy
      rw [add_zero]
      cases s <;> cases s' <;> exact holds_self trivial rfl
    | finite s' m' e' hm' =>
      rw [zero_add]
      exact holds_self hb hy
  | finite s m e hm =>
    cases b with
    | notANumber => cases hy
    | infinity s' => cases hy
    | zero s' =>
      cases hy
      rw [add_zero]
      exact holds_self ha hx
    | finite s' m' e' hm' =>
      cases hx
      cases hy
      rw [← apply_decreaseExponent s m (min_le_left e e'), ← apply_decreaseExponent s' m' (min_le_right e e'),
        ← add_mul]
      exact_mod_cast holds_normalize _ _

theorem sub_eq_add (a b : UnpackedFloat) : sub .binary64 a b = add .binary64 a b.neg := by
  cases a with
  | finite s m e hm =>
    cases b with
    | finite s' m' e' hm' =>
      have happly (n : ℤ) : (-s').apply n = -s'.apply n := by
        cases s' with
        | positive => rfl
        | negative => exact (neg_neg n).symm
      simp only [sub, add, neg, happly, sub_eq_add_neg]
    | _ => rfl
  | _ => cases b <;> rfl

theorem rational?_neg (hx : rational? a = some x) : rational? a.neg = some (-x) := by
  cases a with
  | notANumber => cases hx
  | infinity s => cases hx
  | zero s =>
    cases hx
    rw [neg_zero]
    rfl
  | finite s m e hm =>
    cases hx
    cases s with
    | positive => rfl
    | negative =>
      rw [signed, neg_neg]
      rfl

theorem isCanonical_neg (ha : IsCanonical a) : IsCanonical a.neg := by
  cases a <;> exact ha

theorem holds_sub (ha : IsCanonical a) (hb : IsCanonical b) (hx : rational? a = some x)
    (hy : rational? b = some y) : Holds (x - y) (sub .binary64 a b) := by
  rw [sub_eq_add, sub_eq_add_neg]
  exact holds_add ha (isCanonical_neg hb) hx (rational?_neg hy)

theorem signed_mul (s s' : Sign) (x y : ℚ) : signed (s * s') (x * y) = signed s x * signed s' y := by
  cases s <;> cases s'
  · exact (neg_mul_neg x y).symm
  · exact (neg_mul x y).symm
  · exact (mul_neg x y).symm
  · rfl

theorem signed_div (s s' : Sign) (x y : ℚ) : signed (s / s') (x / y) = signed s x / signed s' y := by
  cases s <;> cases s'
  · exact (neg_div_neg_eq x y).symm
  · exact (neg_div y x).symm
  · exact (div_neg x).symm
  · rfl

/-- A product of mantissas has bits enough, or it lies at the least exponent. -/
theorem add_le_target {m m' : ℕ} {e e' : ℤ} (hm : m ≠ 0) (hm' : m' ≠ 0) (h : 2 ^ 52 ≤ m ∨ e = -1074)
    (h' : 2 ^ 52 ≤ m' ∨ e' = -1074) :
    e + e' ≤ targetExponent .binary64 (Float.Model.totalExponent (m * m') (e + e')) := by
  rw [target_eq]
  by_cases hbits : 2 ^ 52 ≤ m * m'
  · have hlog : 52 ≤ (m * m').log2 := by
      rw [Nat.le_log2 (by positivity)]
      exact hbits
    omega
  · have hle : m ≤ m * m' := Nat.le_mul_of_pos_right m (Nat.pos_of_ne_zero hm')
    have hle' : m' ≤ m * m' := Nat.le_mul_of_pos_left m' (Nat.pos_of_ne_zero hm)
    omega

theorem holds_mul (ha : IsCanonical a) (hb : IsCanonical b) (hx : rational? a = some x)
    (hy : rational? b = some y) : Holds (x * y) (mul .binary64 a b) := by
  cases a with
  | notANumber => cases hx
  | infinity s => cases hx
  | zero s =>
    cases hx
    rw [zero_mul]
    cases b with
    | notANumber => cases hy
    | infinity s' => cases hy
    | zero s' => exact holds_self trivial rfl
    | finite s' m' e' hm' => exact holds_self trivial rfl
  | finite s m e hm =>
    cases b with
    | notANumber => cases hy
    | infinity s' => cases hy
    | zero s' =>
      cases hy
      rw [mul_zero]
      exact holds_self trivial rfl
    | finite s' m' e' hm' =>
      cases hx
      cases hy
      obtain ⟨r, e'', hcarry, hrounds⟩ :=
        exists_rounds_exact (s * s') (add_le_target hm.ne' hm'.ne' ha.2.2 hb.2.2)
      have hvalue : ((m * m' : ℕ) * 2 ^ (e + e') : ℚ) = m * 2 ^ e * (m' * 2 ^ e') := by
        rw [zpow_add₀ (by norm_num)]
        push_cast
        ring
      rw [mul, hcarry, ← signed_mul]
      rw [hvalue] at hrounds
      have he := two_zpow_pos e
      have he' := two_zpow_pos e'
      exact hrounds.holds (by positivity) _

theorem holds_div (hx : rational? a = some x) (hy : rational? b = some y) (hy' : y ≠ 0) :
    Holds (x / y) (div .binary64 a b) := by
  cases b with
  | notANumber => cases hy
  | infinity s' => cases hy
  | zero s' =>
    cases hy
    exact absurd rfl hy'
  | finite s' m' e' hm' =>
    cases hy
    cases a with
    | notANumber => cases hx
    | infinity s => cases hx
    | zero s =>
      cases hx
      rw [zero_div]
      exact holds_self trivial rfl
    | finite s m e hm =>
      cases hx
      obtain ⟨r, e'', hcarry, hrounds⟩ := exists_rounds_div (s / s') hm.ne' hm'.ne' e e'
      have he := two_zpow_pos e
      have he' := two_zpow_pos e'
      have hquotient : div .binary64 (.finite s m e hm) (.finite s' m' e' hm') = carry (s / s') r e'' :=
        hcarry
      rw [hquotient, ← signed_div]
      exact hrounds.holds (by positivity) _

end Operations

end ReservoirGas.Binary64
