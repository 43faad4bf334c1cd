import ReservoirGas.Proofs.Binary64
import Mathlib.Order.Bounds.Image
import Mathlib.Order.Nat

namespace ReservoirGas.Axis

variable {α : Type} [Scalar α]

def Drops (xs : List α) (i : Nat) : Prop :=
  ∃ k a b, i = k + 1 ∧ xs[k]? = some a ∧ xs[i]? = some b ∧ Scalar.lt a b = false

/-- The axis begins with NaN, and with a number after it. -/
def Masked (xs : List α) : Prop :=
  ∃ a b r, xs = a :: b :: r ∧ Scalar.isNaN a = true ∧ Scalar.isNaN b = false

variable {xs r : List α} {a b : α} {i : Nat}

theorem Drops.one_le (h : Drops xs i) : 1 ≤ i := by
  obtain ⟨k, -, -, rfl, -⟩ := h
  omega

theorem not_drops_nil : ¬ Drops ([] : List α) i := by
  rintro ⟨k, a, b, -, ha, -⟩
  cases ha

theorem not_drops_singleton : ¬ Drops [a] i := by
  rintro ⟨k, x, y, rfl, -, hy, -⟩
  cases hy

theorem drops_cons_cons_iff :
    Drops (a :: b :: r) i ↔ i = 1 ∧ Scalar.lt a b = false ∨ ∃ j, i = j + 1 ∧ Drops (b :: r) j := by
  constructor
  · rintro ⟨k, x, y, rfl, hx, hy, hxy⟩
    cases k with
    | zero =>
      cases hx
      cases hy
      exact .inl ⟨rfl, hxy⟩
    | succ k => exact .inr ⟨k + 1, rfl, k, x, y, rfl, hx, hy, hxy⟩
  · rintro (⟨rfl, hab⟩ | ⟨j, rfl, k, x, y, rfl, hx, hy, hxy⟩)
    · exact ⟨0, a, b, rfl, rfl, rfl, hab⟩
    · exact ⟨k + 1, x, y, rfl, hx, hy, hxy⟩

theorem isNaN_of_not_masked (h : ¬ Masked (a :: b :: r)) (ha : Scalar.isNaN a = true) : Scalar.isNaN b = true := by
  by_contra hb
  exact h ⟨a, b, r, rfl, ha, by simpa using hb⟩

theorem drops_take_iff {j : Nat} : Drops (xs.take i) j ↔ j < i ∧ Drops xs j := by
  constructor
  · rintro ⟨k, x, y, rfl, hx, hy, hxy⟩
    have hi : k + 1 < i := by
      by_contra hle
      rw [List.getElem?_take_eq_none (by omega)] at hy
      cases hy
    rw [List.getElem?_take_of_lt (by omega)] at hx
    rw [List.getElem?_take_of_lt hi] at hy
    exact ⟨hi, k, x, y, rfl, hx, hy, hxy⟩
  · rintro ⟨hj, k, x, y, rfl, hx, hy, hxy⟩
    refine ⟨k, x, y, rfl, ?_, ?_, hxy⟩
    · rw [List.getElem?_take_of_lt (by omega), hx]
    · rw [List.getElem?_take_of_lt hj, hy]

theorem drops_after_mask (ha : Scalar.isNaN a = true) (hb : Scalar.isNaN b = false) :
    {j | Drops (a :: b :: r) j ∧ ¬ (j = 1 ∧ Masked (a :: b :: r))} = (· + 1) '' {j | Drops (b :: r) j} := by
  have hmasked : Masked (a :: b :: r) := ⟨a, b, r, rfl, ha, hb⟩
  ext j
  simp only [Set.mem_ofPred_eq, Set.mem_image, drops_cons_cons_iff, hmasked, and_true]
  constructor
  · rintro ⟨⟨rfl, -⟩ | ⟨k, rfl, hk⟩, hne⟩
    · exact absurd rfl hne
    · exact ⟨k, hk, rfl⟩
  · rintro ⟨k, hk, rfl⟩
    have hpos := hk.one_le
    exact ⟨.inr ⟨k, rfl, hk⟩, by omega⟩

theorem isLeast_after_mask (ha : Scalar.isNaN a = true) (hb : Scalar.isNaN b = false) :
    IsLeast {j | Drops (a :: b :: r) j ∧ ¬ (j = 1 ∧ Masked (a :: b :: r))} i ↔
      ∃ j, IsLeast {j | Drops (b :: r) j} j ∧ j + 1 = i := by
  have hmono : StrictMono (· + 1 : Nat → Nat) := fun j k hjk ↦ Nat.succ_lt_succ hjk
  rw [drops_after_mask ha hb]
  constructor
  · intro h
    obtain ⟨j, -, rfl⟩ := h.1
    exact ⟨j, hmono.map_isLeast.mp h, rfl⟩
  · rintro ⟨j, hj, rfl⟩
    exact hmono.map_isLeast.mpr hj

variable [Scalar.Ordered α]

theorem increasing_iff_forall_not_drops : Increasing xs ↔ ∀ i, ¬ Drops xs i := by
  induction xs with
  | nil => simp [Increasing, not_drops_nil]
  | cons a rest ih =>
    cases rest with
    | nil => simp [Increasing, not_drops_singleton]
    | cons b r =>
      rw [increasing_cons_cons, ih]
      constructor
      · intro h i hi
        rcases drops_cons_cons_iff.mp hi with ⟨-, hab⟩ | ⟨j, -, hj⟩
        · rw [h.1] at hab
          cases hab
        · exact h.2 j hj
      · intro h
        refine ⟨?_, fun j hj ↦ h (j + 1) (drops_cons_cons_iff.mpr (.inr ⟨j, rfl, hj⟩))⟩
        by_contra hab
        exact h 1 (drops_cons_cons_iff.mpr (.inl ⟨rfl, by simpa using hab⟩))

theorem firstDrop_iff_isLeast : FirstDrop xs i ↔ IsLeast {j | Drops xs j} i := by
  constructor
  · intro h
    refine ⟨h.drop, fun j hj ↦ not_lt.mp fun hlt ↦ ?_⟩
    exact increasing_iff_forall_not_drops.mp h.increasing j (drops_take_iff.mpr ⟨hlt, hj⟩)
  · intro h
    refine ⟨increasing_iff_forall_not_drops.mpr fun j hj ↦ ?_, h.1⟩
    obtain ⟨hlt, hdrop⟩ := drops_take_iff.mp hj
    exact (h.2 hdrop).not_gt hlt

theorem Masked.isLeast_one (h : Masked xs) : IsLeast {j | Drops xs j} 1 := by
  obtain ⟨a, b, r, rfl, ha, -⟩ := h
  exact ⟨drops_cons_cons_iff.mpr (.inl ⟨rfl, Scalar.lt_eq_false_of_isNaN ha⟩), fun j hj ↦ hj.one_le⟩

theorem firstNonIncreasing_of_masked (ha : Scalar.isNaN a = true) (hb : Scalar.isNaN b = false) :
    firstNonIncreasing (a :: b :: r) = (firstNonIncreasing (b :: r)).map (· + 1) := by
  rw [firstNonIncreasing, Scalar.le_eq_false_of_isNaN ha, hb, Bool.or_self, if_neg Bool.false_ne_true]

theorem firstNonIncreasing_eq_some_iff_of_not_masked (h : ¬ Masked xs) :
    firstNonIncreasing xs = some i ↔ IsLeast {j | Drops xs j} i := by
  rw [← firstDrop_iff_isLeast]
  cases xs with
  | nil => exact firstNonIncreasing_eq_some_of_finite fun x hx ↦ nomatch hx
  | cons a rest =>
    cases ha : Scalar.isNaN a with
    | false => exact firstNonIncreasing_eq_some_iff ha
    | true =>
      cases rest with
      | nil =>
        have hdrop : ¬ FirstDrop [a] i := fun hi ↦ not_drops_singleton hi.drop
        exact iff_of_false (fun hi ↦ nomatch hi) hdrop
      | cons b r =>
        rw [firstNonIncreasing, isNaN_of_not_masked h ha, Bool.or_true, if_pos rfl, firstDrop_cons_cons,
          Scalar.lt_eq_false_of_isNaN ha]
        simp [eq_comm]

theorem firstNonIncreasing_eq_some_iff_isLeast :
    firstNonIncreasing xs = some i ↔ IsLeast {j | Drops xs j ∧ ¬ (j = 1 ∧ Masked xs)} i := by
  by_cases h : Masked xs
  · obtain ⟨a, b, r, rfl, ha, hb⟩ := h
    rw [isLeast_after_mask ha hb, firstNonIncreasing_of_masked ha hb, Option.map_eq_some_iff]
    simp only [firstNonIncreasing_eq_some_iff hb, firstDrop_iff_isLeast]
  · rw [firstNonIncreasing_eq_some_iff_of_not_masked h]
    simp only [h, and_false, not_false_eq_true, and_true]

theorem firstNonIncreasing_eq_none_iff_forall :
    firstNonIncreasing xs = none ↔ ∀ j, Drops xs j → j = 1 ∧ Masked xs := by
  classical
  rw [Option.eq_none_iff_forall_ne_some]
  simp only [ne_eq, firstNonIncreasing_eq_some_iff_isLeast]
  constructor
  · intro h
    by_contra hnone
    have hseen : ∃ j, Drops xs j ∧ ¬ (j = 1 ∧ Masked xs) := by
      simpa only [not_forall, exists_prop] using hnone
    exact h _ (Nat.isLeast_find hseen)
  · intro h i hi
    exact hi.1.2 (h i hi.1.1)

/-- The search answers with the first drop, but does not see the one from a NaN at the front to a number behind it.
Axes that begin like this are the only ones for which it does not answer with the first of all drops. -/
theorem firstNonIncreasing_outcome (xs : List Float) :
    (∀ i, firstNonIncreasing xs = some i ↔ IsLeast {j | Drops xs j ∧ ¬ (j = 1 ∧ Masked xs)} i) ∧
    (firstNonIncreasing xs = none ↔ ∀ j, Drops xs j → j = 1 ∧ Masked xs) ∧
    (¬ Masked xs ↔ (∀ i, firstNonIncreasing xs = some i ↔ IsLeast {j | Drops xs j} i) ∧
      (firstNonIncreasing xs = none ↔ ∀ j, ¬ Drops xs j)) := by
  refine ⟨fun i ↦ firstNonIncreasing_eq_some_iff_isLeast, firstNonIncreasing_eq_none_iff_forall, ?_⟩
  constructor
  · intro h
    refine ⟨fun i ↦ firstNonIncreasing_eq_some_iff_of_not_masked h, ?_⟩
    rw [firstNonIncreasing_eq_none_iff_forall]
    simp only [h, and_false, imp_false]
  · intro hsees hmasked
    have hone := (hsees.1 1).mpr hmasked.isLeast_one
    exact (firstNonIncreasing_eq_some_iff_isLeast.mp hone).1.2 ⟨rfl, hmasked⟩

example : firstNonIncreasing [(Scalar.undefined : Float), 1] = none := by decide +kernel

end ReservoirGas.Axis
