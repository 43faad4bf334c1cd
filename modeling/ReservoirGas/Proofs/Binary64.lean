import ReservoirGas.Proofs.Axis
import Mathlib.Data.Prod.Lex

namespace ReservoirGas.Binary64

open Float.Model

/-- Class, exponent and mantissa, compared in this order. Negative numbers count downwards. -/
abbrev Key := ℤ ×ₗ ℤ ×ₗ ℤ

def Key.mk (c e m : ℤ) : Key :=
  toLex (c, toLex (e, m))

def keyOfUnpacked : UnpackedFloat → Option Key
  | .notANumber => none
  | .infinity .negative => some (Key.mk (-2) 0 0)
  | .finite .negative m e _ => some (Key.mk (-1) (-e) (-m))
  | .zero _ => some (Key.mk 0 0 0)
  | .finite .positive m e _ => some (Key.mk 1 e m)
  | .infinity .positive => some (Key.mk 2 0 0)

def key (x : Float) : Option Key :=
  keyOfUnpacked x.toModel.unpack

theorem Key.mk_le_iff {c e m c' e' m' : ℤ} :
    Key.mk c e m ≤ Key.mk c' e' m' ↔ c < c' ∨ c = c' ∧ (e < e' ∨ e = e' ∧ m ≤ m') := by
  simp [Key.mk, Prod.Lex.toLex_le_toLex]

theorem Key.mk_lt_iff {c e m c' e' m' : ℤ} :
    Key.mk c e m < Key.mk c' e' m' ↔ c < c' ∨ c = c' ∧ (e < e' ∨ e = e' ∧ m < m') := by
  simp [Key.mk, Prod.Lex.toLex_lt_toLex]

theorem compare_then_eq_lt_iff {e e' : ℤ} {m m' : ℕ} :
    (compare e e').then (compare m m') = .lt ↔ e < e' ∨ e = e' ∧ m < m' := by
  rw [Ordering.then_eq_lt, compare_lt_iff_lt, compare_eq_iff_eq, compare_lt_iff_lt]

theorem compare_then_eq_gt_iff {e e' : ℤ} {m m' : ℕ} :
    (compare e e').then (compare m m') = .gt ↔ e' < e ∨ e = e' ∧ m' < m := by
  rw [Ordering.then_eq_gt, compare_gt_iff_gt, compare_eq_iff_eq, compare_gt_iff_gt]

theorem isLE_compare_then_iff {e e' : ℤ} {m m' : ℕ} :
    ((compare e e').then (compare m m')).isLE = true ↔ e < e' ∨ e = e' ∧ m ≤ m' := by
  rw [Ordering.isLE_iff_ne_gt, compare_then_eq_gt_iff]
  omega

theorem isGE_compare_then_iff {e e' : ℤ} {m m' : ℕ} :
    ((compare e e').then (compare m m')).isGE = true ↔ e' < e ∨ e = e' ∧ m' ≤ m := by
  rw [Ordering.isGE_iff_ne_lt, compare_then_eq_lt_iff]
  omega

/-- One case for each pair of classes. Only numbers of one class and sign look at the rest of the key. -/
theorem unpacked_le_iff (a b : UnpackedFloat) :
    a.le b = true ↔ ∃ x y, keyOfUnpacked a = some x ∧ keyOfUnpacked b = some y ∧ x ≤ y := by
  rcases a with (_ | _) | _ | _ | ⟨_ | _, m, e, hm⟩ <;>
    rcases b with (_ | _) | _ | _ | ⟨_ | _, m', e', hm'⟩ <;>
    dsimp only [UnpackedFloat.le, UnpackedFloat.compare, keyOfUnpacked] <;>
    simp [Key.mk_le_iff, isLE_compare_then_iff, isGE_compare_then_iff] <;> rfl

theorem unpacked_lt_iff (a b : UnpackedFloat) :
    a.lt b = true ↔ ∃ x y, keyOfUnpacked a = some x ∧ keyOfUnpacked b = some y ∧ x < y := by
  rcases a with (_ | _) | _ | _ | ⟨_ | _, m, e, hm⟩ <;>
    rcases b with (_ | _) | _ | _ | ⟨_ | _, m', e', hm'⟩ <;>
    dsimp only [UnpackedFloat.lt, UnpackedFloat.compare, keyOfUnpacked] <;>
    simp [Key.mk_lt_iff, compare_then_eq_lt_iff, compare_then_eq_gt_iff]
  rfl

theorem unpacked_isNaN_iff {a : UnpackedFloat} : a.isNaN = true ↔ a = .notANumber := by
  cases a with
  | notANumber => exact ⟨fun _ ↦ rfl, fun _ ↦ rfl⟩
  | infinity s => exact ⟨fun h ↦ absurd h Bool.false_ne_true, fun h ↦ nomatch h⟩
  | zero s => exact ⟨fun h ↦ absurd h Bool.false_ne_true, fun h ↦ nomatch h⟩
  | finite s m e hm => exact ⟨fun h ↦ absurd h Bool.false_ne_true, fun h ↦ nomatch h⟩

theorem key_eq_none_iff (x : Float) : key x = none ↔ Scalar.isNaN x = true := by
  change keyOfUnpacked x.toModel.unpack = none ↔ x.toModel.unpack.isNaN = true
  rw [unpacked_isNaN_iff]
  rcases x.toModel.unpack with (_ | _) | _ | _ | ⟨_ | _, m, e, hm⟩ <;>
    constructor <;> intro h <;> first | rfl | cases h

theorem le_iff (x y : Float) :
    Scalar.le x y = true ↔ ∃ k l, key x = some k ∧ key y = some l ∧ k ≤ l := by
  have h : Scalar.le x y = x.toModel.unpack.le y.toModel.unpack := Bool.decide_eq_true
  rw [h, unpacked_le_iff]
  rfl

theorem lt_iff (x y : Float) :
    Scalar.lt x y = true ↔ ∃ k l, key x = some k ∧ key y = some l ∧ k < l := by
  have h : Scalar.lt x y = x.toModel.unpack.lt y.toModel.unpack := Bool.decide_eq_true
  rw [h, unpacked_lt_iff]
  rfl

theorem exists_key {x : Float} (h : Scalar.isNaN x = false) : ∃ k, key x = some k := by
  rw [← Option.ne_none_iff_exists', ne_eq, key_eq_none_iff, h]
  exact Bool.false_ne_true

theorem not_isNaN_of_key {x : Float} {k : Key} (h : key x = some k) : Scalar.isNaN x = false := by
  have h' := (key_eq_none_iff x).not.mp (by simp [h])
  simpa using h'

instance : Scalar.Ordered Float where
  isNaN_of_isFinite x h := by
    change x.toModel.unpack.isFinite = true at h
    change x.toModel.unpack.isNaN = false
    rw [← Bool.not_eq_true, unpacked_isNaN_iff]
    intro hnan
    rw [hnan] at h
    cases h
  lt_iff x y := by
    rw [lt_iff, le_iff, ← Bool.not_eq_true, le_iff]
    constructor
    · intro hlt
      obtain ⟨k, l, hk, hl, h⟩ := hlt
      refine ⟨⟨k, l, hk, hl, h.le⟩, fun hle ↦ ?_⟩
      obtain ⟨l', k', hl', hk', h'⟩ := hle
      rw [hk] at hk'
      rw [hl] at hl'
      cases hk'
      cases hl'
      exact h'.not_gt h
    · intro hle
      obtain ⟨⟨k, l, hk, hl, -⟩, h⟩ := hle
      exact ⟨k, l, hk, hl, lt_of_not_ge fun h' ↦ h ⟨l, k, hl, hk, h'⟩⟩
  le_total x y hx hy := by
    obtain ⟨k, hk⟩ := exists_key hx
    obtain ⟨l, hl⟩ := exists_key hy
    rcases le_total k l with h | h
    · exact .inl ((le_iff x y).mpr ⟨k, l, hk, hl, h⟩)
    · exact .inr ((le_iff y x).mpr ⟨l, k, hl, hk, h⟩)
  le_trans x y z hxy hyz := by
    obtain ⟨k, l, hk, hl, h⟩ := (le_iff x y).mp hxy
    obtain ⟨l', n, hl', hn, h'⟩ := (le_iff y z).mp hyz
    rw [hl] at hl'
    cases hl'
    exact (le_iff x z).mpr ⟨k, n, hk, hn, h.trans h'⟩
  not_isNaN_of_le x y h := by
    obtain ⟨k, l, hk, hl, -⟩ := (le_iff x y).mp h
    exact ⟨not_isNaN_of_key hk, not_isNaN_of_key hl⟩

end ReservoirGas.Binary64
