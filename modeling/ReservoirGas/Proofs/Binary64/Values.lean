import ReservoirGas.Proofs.Binary64.Arithmetic
import ReservoirGas.Units

namespace ReservoirGas.Binary64

open Float.Model (UnpackedFloat)
open Float.Model.UnpackedFloat

def toRat? (x : Float) : Option ℚ :=
  rational? x.toModel.unpack

def IsInfinite (x : Float) : Prop :=
  ∃ s, x.toModel.unpack = .infinity s

/-- The number `x` is what an operation gives whose exact result is `v`. -/
def Computes (v : ℚ) (x : Float) : Prop :=
  ∃ w, Rounded v w ∧ (toRat? x = some w ∨ 2 ^ 1024 ≤ |w| ∧ IsInfinite x)

theorem isFinite_iff {x : Float} : Scalar.isFinite x = true ↔ ∃ v, toRat? x = some v := by
  change x.toModel.unpack.isFinite = true ↔ ∃ v, rational? x.toModel.unpack = some v
  cases x.toModel.unpack <;> simp [isFinite, rational?]

theorem compare_zero {x : Float} {v : ℚ} (h : toRat? x = some v) :
    (Scalar.zero : Float).toModel.unpack.compare x.toModel.unpack = some (compare 0 v) := by
  have hzero : (Scalar.zero : Float).toModel.unpack = .zero .positive := rfl
  rw [hzero]
  rw [toRat?] at h
  cases hx : x.toModel.unpack with
  | notANumber =>
    rw [hx] at h
    cases h
  | infinity s =>
    rw [hx] at h
    cases h
  | zero s =>
    rw [hx] at h
    cases h
    rfl
  | finite s m e hm =>
    rw [hx] at h
    cases h
    have hpos : (0 : ℚ) < m * 2 ^ e := mul_pos (by exact_mod_cast hm) (two_zpow_pos e)
    cases s with
    | positive =>
      have hcompare : compare 0 (signed .positive (m * 2 ^ e)) = .lt := compare_lt_iff_lt.mpr hpos
      rw [hcompare]
      rfl
    | negative =>
      have hcompare : compare 0 (signed .negative (m * 2 ^ e)) = .gt :=
        compare_gt_iff_gt.mpr (neg_lt_zero.mpr hpos)
      rw [hcompare]
      rfl

theorem lt_zero_iff {x : Float} {v : ℚ} (h : toRat? x = some v) : Scalar.lt Scalar.zero x = true ↔ 0 < v := by
  have hlt : Scalar.lt Scalar.zero x = (Scalar.zero : Float).toModel.unpack.lt x.toModel.unpack :=
    Bool.decide_eq_true
  rw [hlt, UnpackedFloat.lt, compare_zero h, beq_iff_eq, Option.some.injEq, compare_lt_iff_lt]

theorem le_zero_iff {x : Float} {v : ℚ} (h : toRat? x = some v) : Scalar.le Scalar.zero x = true ↔ 0 ≤ v := by
  have hle : Scalar.le Scalar.zero x = (Scalar.zero : Float).toModel.unpack.le x.toModel.unpack :=
    Bool.decide_eq_true
  rw [hle, UnpackedFloat.le, compare_zero h, Option.any_some, Ordering.isLE_iff_ne_gt,
    compare_gt_iff_gt, not_lt]

theorem computes_of_holds {v : ℚ} {f : UnpackedFloat} (h : Holds v f) :
    Computes v (.ofModel (.pack f)) := by
  obtain ⟨hcanonical, w, hw, hrounded⟩ := h
  refine ⟨w, hrounded, ?_⟩
  have hunpack : (Float.ofModel (.pack f)).toModel.unpack =
      UnpackedFloat.unpack .binary64 (UnpackedFloat.pack .binary64 f) := rfl
  rcases unpack_pack hcanonical with hsame | ⟨s, m, e, hm, rfl, he, hinfinite⟩
  · left
    rw [toRat?, hunpack, hsame, hw]
  · right
    refine ⟨?_, s, hunpack.trans hinfinite⟩
    cases hw
    have hbits : 2 ^ 52 ≤ m := hcanonical.2.2.resolve_right (by omega)
    have hbits' : (2 : ℚ) ^ 52 ≤ m := by exact_mod_cast hbits
    have hpos : (0 : ℚ) < m * 2 ^ e := mul_pos (by exact_mod_cast hm) (two_zpow_pos e)
    have habs : |signed s (m * 2 ^ e)| = m * 2 ^ e := by
      cases s with
      | positive => exact abs_of_pos hpos
      | negative => exact (abs_neg _).trans (abs_of_pos hpos)
    rw [habs]
    calc (2 : ℚ) ^ 1024 = 2 ^ 52 * 2 ^ (972 : ℤ) := (two_pow_mul_zpow (by decide)).symm
      _ ≤ 2 ^ 52 * 2 ^ e := by gcongr; norm_num
      _ ≤ m * 2 ^ e := by gcongr

section Operations

variable {x y : Float} {a b : ℚ}

theorem canonical (x : Float) : IsCanonical x.toModel.unpack :=
  isCanonical_unpack _

theorem computes_add (hx : toRat? x = some a) (hy : toRat? y = some b) : Computes (a + b) (x + y) :=
  computes_of_holds (holds_add (canonical x) (canonical y) hx hy)

theorem computes_sub (hx : toRat? x = some a) (hy : toRat? y = some b) : Computes (a - b) (x - y) :=
  computes_of_holds (holds_sub (canonical x) (canonical y) hx hy)

theorem computes_mul (hx : toRat? x = some a) (hy : toRat? y = some b) : Computes (a * b) (x * y) :=
  computes_of_holds (holds_mul (canonical x) (canonical y) hx hy)

theorem computes_div (hx : toRat? x = some a) (hy : toRat? y = some b) (hb : b ≠ 0) :
    Computes (a / b) (x / y) :=
  computes_of_holds (holds_div hx hy hb)

theorem toRat?_pack_eq_none {f : UnpackedFloat} (hf : rational? f = none) :
    toRat? (.ofModel (.pack f)) = none := by
  have hcanonical : IsCanonical f := by
    cases f with
    | finite s m e hm => cases hf
    | _ => trivial
  have hunpack : toRat? (.ofModel (.pack f)) =
      rational? (UnpackedFloat.unpack .binary64 (UnpackedFloat.pack .binary64 f)) := rfl
  rw [hunpack]
  rcases unpack_pack hcanonical with hsame | ⟨s, m, e, hm, rfl, -, -⟩
  · rw [hsame, hf]
  · cases hf

theorem toRat?_pack_zero (s : Sign) : toRat? (.ofModel (.pack (.zero s))) = some 0 := by
  cases s <;> rfl

theorem toRat?_div_zero (x : Float) (hy : toRat? y = some 0) : toRat? (x / y) = none := by
  apply toRat?_pack_eq_none
  obtain ⟨s, hs⟩ : ∃ s, y.toModel.unpack = .zero s := by
    rw [toRat?] at hy
    cases h : y.toModel.unpack with
    | zero s => exact ⟨s, rfl⟩
    | finite s m e hm =>
      rw [h, rational?, Option.some.injEq] at hy
      have hpos : (0 : ℚ) < m * 2 ^ e := mul_pos (by exact_mod_cast hm) (two_zpow_pos e)
      cases s with
      | positive => exact absurd hy hpos.ne'
      | negative => exact absurd (neg_eq_zero.mp hy) hpos.ne'
    | _ =>
      rw [h] at hy
      cases hy
  rw [hs]
  cases x.toModel.unpack <;> rfl

theorem toRat?_div_of_isInfinite (hx : IsInfinite x) (y : Float) : toRat? (x / y) = none := by
  apply toRat?_pack_eq_none
  obtain ⟨s, hs⟩ := hx
  rw [hs]
  cases y.toModel.unpack <;> rfl

theorem toRat?_div_isInfinite (hx : toRat? x = some a) (hy : IsInfinite y) : toRat? (x / y) = some 0 := by
  obtain ⟨s, hs⟩ := hy
  have hzero : ∃ s', div .binary64 x.toModel.unpack y.toModel.unpack = .zero s' := by
    rw [hs]
    rw [toRat?] at hx
    cases h : x.toModel.unpack with
    | finite s' m e hm => exact ⟨_, rfl⟩
    | zero s' => exact ⟨_, rfl⟩
    | _ =>
      rw [h] at hx
      cases hx
  obtain ⟨s', hs'⟩ := hzero
  have hpack : x / y = .ofModel (.pack (div .binary64 x.toModel.unpack y.toModel.unpack)) := rfl
  rw [hpack, hs']
  exact toRat?_pack_zero s'

theorem abs_signed (s : Sign) (v : ℚ) : |signed s v| = |v| := by
  cases s with
  | positive => rfl
  | negative => exact abs_neg v

theorem exists_units (hx : toRat? x = some a) : ∃ (n : ℕ) (j : ℤ), n < 2 ^ 53 ∧ -1074 ≤ j ∧
    (2 ^ 52 ≤ n ∨ j = -1074) ∧ |a| = n * 2 ^ j := by
  have hcanonical := canonical x
  rw [toRat?] at hx
  cases h : x.toModel.unpack with
  | zero s =>
    rw [h] at hx
    cases hx
    exact ⟨0, -1074, by decide, le_rfl, .inr rfl, by simp⟩
  | finite s m e hm =>
    rw [h] at hx hcanonical
    cases hx
    obtain ⟨hlt, hmin, hunits⟩ := hcanonical
    refine ⟨m, e, hlt, hmin, hunits, ?_⟩
    rw [abs_signed, abs_of_pos (mul_pos (by exact_mod_cast hm) (two_zpow_pos e))]
  | _ =>
    rw [h] at hx
    cases hx

theorem representable_of_toRat? (hx : toRat? x = some a) : Representable a := by
  obtain ⟨n, j, hn, hj, -, ha⟩ := exists_units hx
  exact ⟨n, j, hn, hj, ha⟩

def largest : ℚ :=
  (2 ^ 53 - 1 : ℕ) * 2 ^ (971 : ℤ)

theorem largest_lt : largest < 2 ^ 1024 := by
  have hsplit : (2 : ℚ) ^ 53 * 2 ^ (971 : ℤ) = 2 ^ 1024 := two_pow_mul_zpow (by decide)
  rw [← hsplit, largest]
  apply mul_lt_mul_of_pos_right _ (two_zpow_pos 971)
  norm_num

theorem abs_le_largest (hx : toRat? x = some a) : |a| ≤ largest := by
  have hcanonical := canonical x
  rw [toRat?] at hx
  cases h : x.toModel.unpack with
  | zero s =>
    rw [h] at hx
    cases hx
    rw [abs_zero]
    exact mul_nonneg (Nat.cast_nonneg _) (two_zpow_pos 971).le
  | finite s m e hm =>
    rw [h] at hx hcanonical
    cases hx
    have he : e ≤ 971 := exponent_le_of_unpack h
    have hle : (m : ℚ) ≤ (2 ^ 53 - 1 : ℕ) := by exact_mod_cast Nat.le_sub_one_of_lt hcanonical.1
    have hpow := two_zpow_pos e
    rw [abs_signed, abs_of_pos (mul_pos (by exact_mod_cast hm) hpow)]
    calc (m * 2 ^ e : ℚ) ≤ (2 ^ 53 - 1 : ℕ) * 2 ^ e := mul_le_mul_of_nonneg_right hle hpow.le
      _ ≤ largest := mul_le_mul_of_nonneg_left (zpow_le_zpow_right₀ (by norm_num) he) (Nat.cast_nonneg _)
  | _ =>
    rw [h] at hx
    cases hx

theorem abs_lt_of_toRat? (hx : toRat? x = some a) : |a| < 2 ^ 1024 :=
  (abs_le_largest hx).trans_lt largest_lt

end Operations

end ReservoirGas.Binary64
