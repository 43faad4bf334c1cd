import ReservoirGas.Tables
import Mathlib.Data.List.Basic

namespace ReservoirGas

/-- Number systems whose comparisons are those of a linear order, as far as numbers are not NaN. -/
class Scalar.Ordered (α : Type) [Scalar α] : Prop where
  isNaN_of_isFinite (a : α) : isFinite a = true → isNaN a = false
  lt_iff (a b : α) : lt a b = true ↔ le a b = true ∧ le b a = false
  le_total (a b : α) : isNaN a = false → isNaN b = false → le a b = true ∨ le b a = true
  le_trans (a b c : α) : le a b = true → le b c = true → le a c = true
  not_isNaN_of_le (a b : α) : le a b = true → isNaN a = false ∧ isNaN b = false

namespace Scalar

variable {α : Type} [Scalar α] [Ordered α] {a b c : α}

theorem lt_trans (hab : lt a b = true) (hbc : lt b c = true) : lt a c = true := by
  obtain ⟨hab, hba⟩ := (Ordered.lt_iff a b).mp hab
  obtain ⟨hbc, hcb⟩ := (Ordered.lt_iff b c).mp hbc
  refine (Ordered.lt_iff a c).mpr ⟨Ordered.le_trans a b c hab hbc, ?_⟩
  by_contra hca
  have hcb' := Ordered.le_trans c a b (by simpa using hca) hab
  rw [hcb] at hcb'
  cases hcb'

theorem not_isNaN_of_lt (h : lt a b = true) : isNaN a = false ∧ isNaN b = false :=
  Ordered.not_isNaN_of_le a b ((Ordered.lt_iff a b).mp h).1

theorem le_eq_false_of_lt (h : lt a b = true) : le b a = false :=
  ((Ordered.lt_iff a b).mp h).2

theorem le_eq_false_of_isNaN (hb : isNaN b = true) : le a b = false := by
  by_contra h
  have hnumber := (Ordered.not_isNaN_of_le a b (by simpa using h)).2
  rw [hb] at hnumber
  cases hnumber

theorem lt_eq_false_of_isNaN (ha : isNaN a = true) : lt a b = false := by
  by_contra h
  have hnumber := (not_isNaN_of_lt (by simpa using h : lt a b = true)).1
  rw [ha] at hnumber
  cases hnumber

theorem lt_iff_not_le (ha : isNaN a = false) :
    lt a b = true ↔ le b a = false ∧ isNaN b = false := by
  constructor
  · intro h
    exact ⟨le_eq_false_of_lt h, (not_isNaN_of_lt h).2⟩
  · intro h
    obtain ⟨hba, hb⟩ := h
    rcases Ordered.le_total a b ha hb with hab | hba'
    · exact (Ordered.lt_iff a b).mpr ⟨hab, hba⟩
    · rw [hba] at hba'
      cases hba'

end Scalar

namespace Axis

section Order

variable {α : Type} [Scalar α]

def Increasing (xs : List α) : Prop :=
  xs.Pairwise fun a b ↦ Scalar.lt a b = true

def Finite (xs : List α) : Prop :=
  ∀ x ∈ xs, Scalar.isFinite x = true

instance (xs : List α) : Decidable (Increasing xs) :=
  inferInstanceAs (Decidable (xs.Pairwise _))

instance (xs : List α) : Decidable (Finite xs) :=
  inferInstanceAs (Decidable (∀ x ∈ xs, _))

theorem firstNonFinite_eq_none_iff {xs : List α} : firstNonFinite xs = none ↔ Finite xs := by
  simp [firstNonFinite, Finite]

structure FirstNonFinite (xs : List α) (i : Nat) : Prop where
  finite : Finite (xs.take i)
  notFinite : ∃ x, xs[i]? = some x ∧ Scalar.isFinite x = false

structure FirstDrop (xs : List α) (i : Nat) : Prop where
  increasing : Increasing (xs.take i)
  drop : ∃ k a b, i = k + 1 ∧ xs[k]? = some a ∧ xs[i]? = some b ∧ Scalar.lt a b = false

theorem FirstNonFinite.ne_nil {xs : List α} {i : Nat} (h : FirstNonFinite xs i) : xs ≠ [] := by
  obtain ⟨-, x, hx, -⟩ := h
  exact List.ne_nil_of_mem (List.mem_of_getElem? hx)

theorem FirstDrop.ne_nil {xs : List α} {i : Nat} (h : FirstDrop xs i) : xs ≠ [] := by
  obtain ⟨-, k, a, b, -, ha, -⟩ := h
  exact List.ne_nil_of_mem (List.mem_of_getElem? ha)

theorem FirstNonFinite.not_finite {xs : List α} {i : Nat} (h : FirstNonFinite xs i) : ¬ Finite xs := by
  intro hfinite
  obtain ⟨-, x, hx, hvalue⟩ := h
  rw [hfinite x (List.mem_of_getElem? hx)] at hvalue
  cases hvalue

theorem FirstNonFinite.le {xs : List α} {i j : Nat} {x : α} (h : FirstNonFinite xs i) (hj : xs[j]? = some x)
    (hx : Scalar.isFinite x = false) : i ≤ j := by
  by_contra hlt
  have htake : (xs.take i)[j]? = some x := by rw [List.getElem?_take_of_lt (by omega), hj]
  rw [h.finite x (List.mem_of_getElem? htake)] at hx
  cases hx

theorem FirstDrop.not_increasing {xs : List α} {i : Nat} (h : FirstDrop xs i) : ¬ Increasing xs := by
  intro hincreasing
  obtain ⟨-, k, a, b, rfl, ha, hb, hdrop⟩ := h
  obtain ⟨hk, rfl⟩ := List.getElem?_eq_some_iff.mp ha
  obtain ⟨hk', rfl⟩ := List.getElem?_eq_some_iff.mp hb
  rw [List.pairwise_iff_getElem.mp hincreasing k (k + 1) hk hk' (Nat.lt_succ_self k)] at hdrop
  cases hdrop

theorem firstNonFinite_eq_some_iff {xs : List α} {i : Nat} :
    firstNonFinite xs = some i ↔ FirstNonFinite xs i := by
  rw [firstNonFinite, List.findIdx?_eq_some_iff_getElem]
  simp only [Bool.not_eq_true', Bool.not_eq_false]
  constructor
  · intro h
    obtain ⟨hi, hvalue, hbefore⟩ := h
    refine ⟨fun x hx ↦ ?_, xs[i], List.getElem?_eq_getElem hi, hvalue⟩
    obtain ⟨j, hj, rfl⟩ := List.mem_take_iff_getElem.mp hx
    exact hbefore j (by omega)
  · intro h
    obtain ⟨hfinite, x, hx, hvalue⟩ := h
    obtain ⟨hi, rfl⟩ := List.getElem?_eq_some_iff.mp hx
    exact ⟨hi, hvalue, fun j hj ↦ hfinite _ (List.mem_take_iff_getElem.mpr ⟨j, by omega, rfl⟩)⟩

theorem head?_firstNonFinite_eq_some_iff {ε : Type} {xs : List α} {fault : Nat → ε} {e : ε} :
    ((firstNonFinite xs).map fault).toList.head? = some e ↔ ∃ i, FirstNonFinite xs i ∧ fault i = e := by
  rw [Option.head?_toList, Option.map_eq_some_iff]
  simp only [firstNonFinite_eq_some_iff]

theorem firstNonIncreasing_cons_cons {a b : α} {r : List α} :
    firstNonIncreasing (a :: b :: r) = none ↔
      (Scalar.le b a = false ∧ Scalar.isNaN b = false) ∧ firstNonIncreasing (b :: r) = none := by
  rw [firstNonIncreasing]
  split <;> rename_i h
  · simp only [reduceCtorEq, false_iff]
    intro hnot
    obtain ⟨⟨hle, hnan⟩, -⟩ := hnot
    simp [hle, hnan] at h
  · simp only [Bool.or_eq_true, not_or, Bool.not_eq_true] at h
    simp [h]

variable [Scalar.Ordered α]

theorem increasing_cons_cons {a b : α} {r : List α} :
    Increasing (a :: b :: r) ↔ Scalar.lt a b = true ∧ Increasing (b :: r) := by
  constructor
  · intro h
    exact ⟨List.rel_of_pairwise_cons h List.mem_cons_self, h.of_cons⟩
  · intro h
    obtain ⟨hab, hr⟩ := h
    refine List.Pairwise.cons (fun x hx ↦ ?_) hr
    rcases List.mem_cons.mp hx with rfl | hx
    · exact hab
    · exact Scalar.lt_trans hab (List.rel_of_pairwise_cons hr hx)

/-- Only the second of two neighbours is tested for NaN, so the first coordinate is asked for here. -/
theorem firstNonIncreasing_eq_none_iff {a : α} {r : List α} (ha : Scalar.isNaN a = false) :
    firstNonIncreasing (a :: r) = none ↔ Increasing (a :: r) := by
  induction r generalizing a with
  | nil => simp [firstNonIncreasing, Increasing]
  | cons b r ih =>
    rw [firstNonIncreasing_cons_cons, ← Scalar.lt_iff_not_le ha, increasing_cons_cons]
    refine and_congr_right fun hab ↦ ?_
    exact ih (Scalar.not_isNaN_of_lt hab).2

theorem firstNonIncreasing_eq_none_of_finite {xs : List α} (h : Finite xs) :
    firstNonIncreasing xs = none ↔ Increasing xs := by
  cases xs with
  | nil => simp [firstNonIncreasing, Increasing]
  | cons a r =>
    exact firstNonIncreasing_eq_none_iff
      (Scalar.Ordered.isNaN_of_isFinite a (h a List.mem_cons_self))

theorem firstDrop_cons_cons {a b : α} {r : List α} {i : Nat} :
    FirstDrop (a :: b :: r) i ↔ Scalar.lt a b = false ∧ i = 1 ∨
      Scalar.lt a b = true ∧ ∃ j, FirstDrop (b :: r) j ∧ i = j + 1 := by
  constructor
  · intro h
    obtain ⟨hincreasing, k, x, y, rfl, hx, hy, hxy⟩ := h
    cases k with
    | zero =>
      cases hx
      cases hy
      exact .inl ⟨hxy, rfl⟩
    | succ k =>
      obtain ⟨hab, hrest⟩ := increasing_cons_cons.mp hincreasing
      exact .inr ⟨hab, k + 1, ⟨hrest, k, x, y, rfl, hx, hy, hxy⟩, rfl⟩
  · intro h
    rcases h with ⟨hab, rfl⟩ | ⟨hab, j, ⟨hincreasing, k, x, y, rfl, hx, hy, hxy⟩, rfl⟩
    · exact ⟨List.pairwise_singleton _ _, 0, a, b, rfl, rfl, rfl, hab⟩
    · exact ⟨increasing_cons_cons.mpr ⟨hab, hincreasing⟩, k + 1, x, y, rfl, hx, hy, hxy⟩

theorem firstNonIncreasing_eq_some_iff {a : α} {r : List α} {i : Nat} (ha : Scalar.isNaN a = false) :
    firstNonIncreasing (a :: r) = some i ↔ FirstDrop (a :: r) i := by
  induction r generalizing a i with
  | nil =>
    have hnone : firstNonIncreasing [a] = none := rfl
    rw [hnone]
    constructor
    · intro h
      cases h
    · intro h
      obtain ⟨-, k, x, y, rfl, -, hy, -⟩ := h
      cases hy
  | cons b r ih =>
    rw [firstDrop_cons_cons, firstNonIncreasing]
    cases hab : Scalar.lt a b with
    | true =>
      obtain ⟨hle, hb⟩ := (Scalar.lt_iff_not_le ha).mp hab
      simp only [hle, hb, Bool.or_self, Bool.false_eq_true, if_false, Option.map_eq_some_iff, ih hb]
      simp [eq_comm]
    | false =>
      have htest : (Scalar.le b a || Scalar.isNaN b) = true := by
        rw [← Bool.not_eq_true, Scalar.lt_iff_not_le ha] at hab
        cases hle : Scalar.le b a <;> cases hb : Scalar.isNaN b <;> simp_all
      rw [if_pos htest]
      simp [eq_comm]

theorem firstNonIncreasing_eq_some_of_finite {xs : List α} {i : Nat} (h : Finite xs) :
    firstNonIncreasing xs = some i ↔ FirstDrop xs i := by
  cases xs with
  | nil =>
    constructor
    · intro hi
      cases hi
    · intro hi
      obtain ⟨-, k, x, y, rfl, hx, -⟩ := hi
      cases hx
  | cons a r =>
    exact firstNonIncreasing_eq_some_iff
      (Scalar.Ordered.isNaN_of_isFinite a (h a List.mem_cons_self))

theorem head?_firstNonIncreasing_eq_some_iff {ε : Type} {xs : List α} {fault : Nat → ε} {e : ε}
    (h : Finite xs) :
    ((firstNonIncreasing xs).map fault).toList.head? = some e ↔ ∃ i, FirstDrop xs i ∧ fault i = e := by
  rw [Option.head?_toList, Option.map_eq_some_iff]
  simp only [firstNonIncreasing_eq_some_of_finite h]

end Order

section Segment

/-- The segment of an axis of `n` coordinates on which a search ends that has counted `count` of them. -/
def segmentAt (n count : Nat) : Nat :=
  min (max count 1) (n - 1) - 1

theorem segmentAt_lt {n : Nat} (hn : 2 ≤ n) (count : Nat) : segmentAt n count + 1 < n := by
  rw [segmentAt]
  omega

variable {α : Type} [Scalar α] {a b x : α} {r : List α}

def passed (xs : List α) (x : α) : Nat :=
  (xs.takeWhile fun v ↦ Scalar.le v x).length

theorem segment_eq_segmentAt (xs : List α) (x : α) : segment xs x = segmentAt xs.length (passed xs x) := rfl

theorem segment_of_stop (h : r = [] ∨ Scalar.le b x = false) : segment (a :: b :: r) x = 0 := by
  rw [segment]
  rcases h with rfl | hb
  · simp only [List.length_cons, List.length_nil]
    omega
  · have hcount : ((a :: b :: r).takeWhile fun v ↦ Scalar.le v x).length ≤ 1 := by
      rw [List.takeWhile_cons, List.takeWhile_cons, hb]
      split <;> simp
    omega

theorem segment_of_step (hr : r ≠ []) (ha : Scalar.le a x = true) (hb : Scalar.le b x = true) :
    segment (a :: b :: r) x = segment (b :: r) x + 1 := by
  have hlength := List.length_pos_iff.mpr hr
  simp only [segment, List.takeWhile_cons, ha, hb, if_true, List.length_cons]
  omega

variable {p q : α × α} {r : List (α × α)}

theorem eval?_of_stop (h : r = [] ∨ Scalar.le q.1 x = false) :
    eval? (p :: q :: r) x = some (line p.1 p.2 q.1 q.2 x) := by
  have hstop : segment ((p :: q :: r).map Prod.fst) x = 0 :=
    segment_of_stop (h.imp_left (congrArg (List.map Prod.fst)))
  rw [eval?, hstop]
  rfl

theorem eval?_of_step (hr : r ≠ []) (hp : Scalar.le p.1 x = true) (hq : Scalar.le q.1 x = true) :
    eval? (p :: q :: r) x = eval? (q :: r) x := by
  have hstep : segment ((p :: q :: r).map Prod.fst) x = segment ((q :: r).map Prod.fst) x + 1 :=
    segment_of_step (mt List.map_eq_nil_iff.mp hr) hp hq
  rw [eval?, eval?, hstep]
  rfl

end Segment

end Axis

end ReservoirGas
