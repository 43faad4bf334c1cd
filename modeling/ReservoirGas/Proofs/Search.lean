import ReservoirGas.Proofs.Axis
import ReservoirGas.Proofs.Binary64
import Mathlib.Order.Bounds.Basic

namespace ReservoirGas.Axis

variable {α : Type} [Scalar α]

structure Nondecreasing (xs : List α) : Prop where
  numbers : ∀ a ∈ xs, Scalar.isNaN a = false
  sorted : xs.Pairwise fun a b ↦ Scalar.le a b = true

/-- The first `count` coordinates are at most `x`, and no others are. -/
structure Splits (xs : List α) (x : α) (count : Nat) : Prop where
  le_length : count ≤ xs.length
  le_iff : ∀ {i a}, xs[i]? = some a → (Scalar.le a x = true ↔ i < count)

def Begins (xs : List α) (x : α) (i : Nat) : Prop :=
  i + 2 ≤ xs.length ∧ ∃ a, xs[i]? = some a ∧ Scalar.le a x = true

/-- What the segments `f x` of an axis are, told without a search for them. -/
structure Serves (xs : List α) (f : α → Nat) : Prop where
  last_begun (x : α) : (∃ i, Begins xs x i) → IsGreatest {i | Begins xs x i} (f x)
  none_begun (x : α) : (∀ i, ¬ Begins xs x i) → f x = 0
  within {x a b : α} : xs.head? = some a → xs.getLast? = some b → Scalar.le a x = true → Scalar.lt x b = true →
    ∃ p q, xs[f x]? = some p ∧ xs[f x + 1]? = some q ∧ Scalar.le p x = true ∧ Scalar.lt x q = true
  below {x a : α} : xs.head? = some a → Scalar.lt x a = true → f x = 0
  undefined {x : α} : Scalar.isNaN x = true → f x = 0
  beyond {x b : α} : xs.getLast? = some b → Scalar.le b x = true → f x = xs.length - 2
  monotone {x y : α} : Scalar.le x y = true → f x ≤ f y
  exists_splits (x : α) : ∃ count, Splits xs x count
  of_splits {x : α} {count : Nat} : Splits xs x count → f x = segmentAt xs.length count

variable {xs : List α} {x y : α} {count count' i : Nat}

theorem Nondecreasing.tail {a : α} {r : List α} (h : Nondecreasing (a :: r)) : Nondecreasing r :=
  ⟨fun b hb ↦ h.numbers b (List.mem_cons_of_mem a hb), h.sorted.of_cons⟩

namespace Splits

theorem begins_iff (h : Splits xs x count) : Begins xs x i ↔ i + 2 ≤ xs.length ∧ i < count := by
  refine and_congr_right fun hi ↦ ?_
  have hget : xs[i]? = some xs[i] := List.getElem?_eq_getElem (by omega)
  rw [← h.le_iff hget]
  constructor
  · rintro ⟨a, ha, hle⟩
    rw [hget] at ha
    cases ha
    exact hle
  · intro hle
    exact ⟨xs[i], hget, hle⟩

theorem le_of_le (h : Splits xs x count) (h' : Splits xs y count')
    (hle : ∀ a ∈ xs, Scalar.le a x = true → Scalar.le a y = true) : count ≤ count' := by
  by_contra hlt
  have hbound := h.le_length
  have hget : xs[count']? = some _ := List.getElem?_eq_getElem (by omega)
  have hx := (h.le_iff hget).mpr (by omega)
  exact lt_irrefl count' ((h'.le_iff hget).mp (hle _ (List.mem_of_getElem? hget) hx))

theorem unique (h : Splits xs x count) (h' : Splits xs x count') : count = count' :=
  le_antisymm (h.le_of_le h' fun _ _ hle ↦ hle) (h'.le_of_le h fun _ _ hle ↦ hle)

theorem isGreatest_begins (h : Splits xs x count) (hbegun : ∃ i, Begins xs x i) :
    IsGreatest {i | Begins xs x i} (segmentAt xs.length count) := by
  obtain ⟨i, hi⟩ := hbegun
  rw [h.begins_iff] at hi
  rw [segmentAt]
  refine ⟨h.begins_iff.mpr (by omega), fun j hj ↦ ?_⟩
  have hj' := h.begins_iff.mp hj
  omega

theorem eq_zero_of_not_begins (h : Splits xs x count) (hlength : 2 ≤ xs.length) (hnone : ∀ i, ¬ Begins xs x i) :
    segmentAt xs.length count = 0 := by
  have hfirst := hnone 0
  rw [h.begins_iff] at hfirst
  rw [segmentAt]
  omega

theorem eq_zero_of_not_le {a : α} (h : Splits xs x count) (ha : xs.head? = some a) (hx : Scalar.le a x = false) :
    segmentAt xs.length count = 0 := by
  rw [List.head?_eq_getElem?] at ha
  rw [← Bool.not_eq_true, h.le_iff ha] at hx
  rw [segmentAt]
  omega

theorem eq_last_of_le {b : α} (h : Splits xs x count) (hb : xs.getLast? = some b) (hx : Scalar.le b x = true) :
    segmentAt xs.length count = xs.length - 2 := by
  rw [List.getLast?_eq_getElem?] at hb
  rw [h.le_iff hb] at hx
  rw [segmentAt]
  omega

theorem ends {a b : α} (h : Splits xs x count) (ha : xs.head? = some a) (hb : xs.getLast? = some b)
    (hax : Scalar.le a x = true) (hbx : Scalar.le b x = false) :
    ∃ p q, xs[segmentAt xs.length count]? = some p ∧ xs[segmentAt xs.length count + 1]? = some q ∧
      Scalar.le p x = true ∧ Scalar.le q x = false := by
  rw [List.head?_eq_getElem?] at ha
  rw [List.getLast?_eq_getElem?] at hb
  rw [h.le_iff ha] at hax
  rw [← Bool.not_eq_true, h.le_iff hb] at hbx
  have hsegment : segmentAt xs.length count + 1 = count := by
    rw [segmentAt]
    omega
  have hp : xs[segmentAt xs.length count]? = some _ := List.getElem?_eq_getElem (by omega)
  have hq : xs[segmentAt xs.length count + 1]? = some _ := List.getElem?_eq_getElem (by omega)
  refine ⟨_, _, hp, hq, (h.le_iff hp).mpr (by omega), ?_⟩
  rw [← Bool.not_eq_true, h.le_iff hq]
  omega

end Splits

theorem segmentAt_mono {n : Nat} (h : count ≤ count') : segmentAt n count ≤ segmentAt n count' := by
  rw [segmentAt, segmentAt]
  omega

variable [Scalar.Ordered α]

theorem Nondecreasing.splits (h : Nondecreasing xs) (x : α) : Splits xs x (passed xs x) := by
  induction xs with
  | nil => exact ⟨le_rfl, fun ha ↦ nomatch ha⟩
  | cons a r ih =>
    cases ha : Scalar.le a x with
    | true =>
      have hpassed : passed (a :: r) x = passed r x + 1 := by
        rw [passed, List.takeWhile_cons, ha]
        rfl
      obtain ⟨hlength, hle⟩ := ih h.tail
      rw [hpassed]
      refine ⟨Nat.succ_le_succ hlength, fun {i b} hb ↦ ?_⟩
      cases i with
      | zero =>
        cases hb
        exact iff_of_true ha (Nat.succ_pos _)
      | succ i => exact (hle hb).trans Nat.succ_lt_succ_iff.symm
    | false =>
      have hpassed : passed (a :: r) x = 0 := by
        rw [passed, List.takeWhile_cons, ha]
        rfl
      rw [hpassed]
      refine ⟨Nat.zero_le _, fun {i b} hb ↦ iff_of_false (fun hbx ↦ ?_) (Nat.not_lt_zero i)⟩
      -- a later coordinate at most `x` would bring `a` below `x`
      have hax : Scalar.le a x = true := by
        rcases List.mem_cons.mp (List.mem_of_getElem? hb) with rfl | hmem
        · exact hbx
        · exact Scalar.Ordered.le_trans a b x (List.rel_of_pairwise_cons h.sorted hmem) hbx
      rw [ha] at hax
      cases hax

theorem Nondecreasing.serves (h : Nondecreasing xs) (hlength : 2 ≤ xs.length) : Serves xs (segment xs) where
  last_begun x := (h.splits x).isGreatest_begins
  none_begun x := (h.splits x).eq_zero_of_not_begins hlength
  within {x a b} ha hb hax hxb := by
    obtain ⟨p, q, hp, hq, hpx, hqx⟩ := (h.splits x).ends ha hb hax (Scalar.le_eq_false_of_lt hxb)
    refine ⟨p, q, hp, hq, hpx, (Scalar.lt_iff_not_le (Scalar.not_isNaN_of_lt hxb).1).mpr ?_⟩
    exact ⟨hqx, h.numbers q (List.mem_of_getElem? hq)⟩
  below ha hxa := (h.splits _).eq_zero_of_not_le ha (Scalar.le_eq_false_of_lt hxa)
  undefined {x} hx := by
    obtain ⟨a, ha⟩ : ∃ a, xs.head? = some a := ⟨xs[0], List.head?_eq_getElem? ▸ List.getElem?_eq_getElem (by omega)⟩
    exact (h.splits x).eq_zero_of_not_le ha (Scalar.le_eq_false_of_isNaN hx)
  beyond hb hbx := (h.splits _).eq_last_of_le hb hbx
  monotone {x y} hxy := by
    apply segmentAt_mono
    exact (h.splits x).le_of_le (h.splits y) fun a _ ha ↦ Scalar.Ordered.le_trans a x y ha hxy
  exists_splits x := ⟨_, h.splits x⟩
  of_splits {x _} hcount := by rw [segment_eq_segmentAt, (h.splits x).unique hcount]

/-- On an axis of two or more numbers that never fall the search for a segment does what a scan of the axis would do,
also for NaN and for infinite coordinates. -/
theorem serves_segment {xs : List Float} (h : Nondecreasing xs) (hlength : 2 ≤ xs.length) : Serves xs (segment xs) :=
  h.serves hlength

def steppedAxis : List Float :=
  [1, 2, 2, 4, 1 / 0]

theorem serves_steppedAxis : Nondecreasing steppedAxis ∧ Serves steppedAxis (segment steppedAxis) ∧
    segment steppedAxis 2 = 2 ∧ segment steppedAxis (1 / 0) = 3 := by
  have hordered : Nondecreasing steppedAxis := ⟨by decide +kernel, by decide +kernel⟩
  have hserves := serves_segment hordered (by decide)
  exact ⟨hordered, hserves, by decide +kernel, hserves.beyond (b := 1 / 0) rfl (by decide +kernel)⟩

end ReservoirGas.Axis
