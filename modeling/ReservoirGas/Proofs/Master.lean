import ReservoirGas.Completion
import ReservoirGas.Proofs.Outcome
import Mathlib.Data.List.Basic

namespace ReservoirGas

open Outcome

variable {α : Type}

theorem ensureFinite_eq_ok_iff [Scalar α] {what : String} {x y : α} :
    ensureFinite what x = .ok y ↔ Scalar.isFinite x = true ∧ x = y := by
  rw [ensureFinite]
  split
  · rename_i h
    simp [h]
  · rename_i h
    simp [h]

theorem ensureFinite_eq_error_iff [Scalar α] {what : String} {x : α} {e : NumericError α} :
    ensureFinite what x = .error e ↔ Scalar.isFinite x = false ∧ .nonFinite what x = e := by
  rw [ensureFinite]
  split
  · rename_i h
    simp [h]
  · rename_i h
    simpa using fun _ ↦ h

namespace GasSample

variable [Scalar α]

theorem follow_eq_ok_iff {last prev next s : GasSample α} :
    follow last prev next = .ok s ↔
      s = ⟨last.ratio + (next.ratio - prev.ratio),
        applyChange last.volumeFactor (relativeChange prev.volumeFactor next.volumeFactor),
        applyChange last.viscosity (relativeChange prev.viscosity next.viscosity)⟩ ∧
      Scalar.isFinite s.ratio = true ∧ Scalar.isFinite s.volumeFactor = true ∧
      Scalar.isFinite s.viscosity = true := by
  simp only [follow, bind_eq_ok_iff, ensureFinite_eq_ok_iff, pure_eq_ok_iff]
  constructor
  · intro h
    obtain ⟨_, ⟨hratio, rfl⟩, _, ⟨hfactor, rfl⟩, _, ⟨hviscosity, rfl⟩, rfl⟩ := h
    exact ⟨rfl, hratio, hfactor, hviscosity⟩
  · intro h
    obtain ⟨rfl, hratio, hfactor, hviscosity⟩ := h
    exact ⟨_, ⟨hratio, rfl⟩, _, ⟨hfactor, rfl⟩, _, ⟨hviscosity, rfl⟩, rfl⟩

theorem length_followAll {last : GasSample α} {master added : List (GasSample α)}
    (h : followAll last master = .ok added) : added.length = master.length - 1 := by
  induction master generalizing last added with
  | nil =>
    cases h
    rfl
  | cons prev r ih =>
    cases r with
    | nil =>
      cases h
      rfl
    | cons next r =>
      simp only [followAll, bind_eq_ok_iff, pure_eq_ok_iff] at h
      obtain ⟨s, -, rest, hrest, rfl⟩ := h
      have hlen := ih hrest
      simp only [List.length_cons] at hlen ⊢
      omega

theorem follow_of_followAll {last : GasSample α} {master added : List (GasSample α)}
    (h : followAll last master = .ok added) {j : Nat} {x s : GasSample α} (hx : (last :: added)[j]? = some x)
    (hs : added[j]? = some s) :
    ∃ prev next, master[j]? = some prev ∧ master[j + 1]? = some next ∧ follow x prev next = .ok s := by
  induction master generalizing last added j with
  | nil =>
    cases h
    cases hs
  | cons prev r ih =>
    cases r with
    | nil =>
      cases h
      cases hs
    | cons next r =>
      simp only [followAll, bind_eq_ok_iff, pure_eq_ok_iff] at h
      obtain ⟨first, hfirst, rest, hrest, rfl⟩ := h
      cases j with
      | zero =>
        cases hx
        cases hs
        exact ⟨prev, next, rfl, rfl, hfirst⟩
      | succ j => exact ih hrest hx hs

theorem length_prolong {current master added : List (GasSample α)}
    (h : prolong current master = .ok added) : added.length = master.length - 1 := by
  rw [prolong] at h
  split at h
  · cases h
  · exact length_followAll h

end GasSample

namespace BranchSet

theorem length_pressures (s : BranchSet α) : s.pressures.length = s.size :=
  List.length_map _

theorem branch_eq_nil_of_size_le {s : BranchSet α} {i : Nat} (h : s.size ≤ i) : s.branch i = [] := by
  rw [branch, List.getElem?_eq_none h]
  rfl

theorem lt_size_of_branchSize {s : BranchSet α} {i : Nat} (h : 0 < s.branchSize i) : i < s.size := by
  by_contra hi
  rw [branchSize, branch_eq_nil_of_size_le (by omega)] at h
  exact absurd h (Nat.lt_irrefl 0)

structure IsMaster (raw : BranchSet α) (i m : Nat) : Prop where
  lt : i < m
  two_le : 2 ≤ raw.branchSize m
  between : ∀ j, i < j → j < m → raw.branchSize j < 2

theorem master?_eq_some_iff {raw : BranchSet α} {i m : Nat} :
    raw.master? i = some m ↔ raw.IsMaster i m := by
  rw [master?, List.find?_range_eq_some]
  simp only [Bool.and_eq_true, decide_eq_true_eq, List.mem_range, Bool.not_eq_true',
    Bool.and_eq_false_iff, decide_eq_false_iff_not]
  constructor
  · intro h
    obtain ⟨⟨hlt, htwo⟩, -, hj⟩ := h
    refine ⟨hlt, htwo, fun j hij hjm ↦ ?_⟩
    have h := hj j hjm
    omega
  · intro h
    refine ⟨⟨h.lt, h.two_le⟩, lt_size_of_branchSize (by have := h.two_le; omega), fun j hjm ↦ ?_⟩
    by_cases hij : i < j
    · have hj := h.between j hij hjm
      omega
    · omega

theorem master?_eq_none_iff {raw : BranchSet α} {i : Nat} :
    raw.master? i = none ↔ ∀ m, i < m → raw.branchSize m < 2 := by
  rw [master?, List.find?_eq_none]
  simp only [List.mem_range, Bool.and_eq_true, decide_eq_true_eq, not_and]
  constructor
  · intro h m hm
    by_cases hsize : m < raw.size
    · have hm' := h m hsize hm
      omega
    · rw [branchSize, branch_eq_nil_of_size_le (by omega)]
      exact Nat.zero_lt_two
  · intro h m _ hm
    have hm' := h m hm
    omega

theorem exists_isMaster_or (raw : BranchSet α) (i : Nat) :
    (∃ m, raw.IsMaster i m) ∨ ∀ m, i < m → raw.branchSize m < 2 := by
  cases hm : raw.master? i with
  | none => exact .inr (master?_eq_none_iff.mp hm)
  | some m => exact .inl ⟨m, master?_eq_some_iff.mp hm⟩

theorem pressures_prolongNode (s : BranchSet α) (i : Nat) (added : List (GasSample α)) :
    (s.prolongNode i added).pressures = s.pressures := by
  apply List.ext_getElem? fun j ↦ ?_
  simp only [pressures, prolongNode, List.getElem?_map, List.getElem?_modify]
  by_cases hij : i = j
  · subst hij
    cases s.nodes[i]? <;> simp
  · simp [hij]

theorem branch_prolongNode_self {s : BranchSet α} {i : Nat} (hi : i < s.size)
    (added : List (GasSample α)) : (s.prolongNode i added).branch i = s.branch i ++ added := by
  simp [branch, prolongNode, List.getElem?_eq_getElem (show i < s.nodes.length from hi)]

theorem branch_prolongNode_ne {s : BranchSet α} {i j : Nat} (h : i ≠ j) (added : List (GasSample α)) :
    (s.prolongNode i added).branch j = s.branch j := by
  simp [branch, prolongNode, List.getElem?_modify_ne _ _ h]

end BranchSet

end ReservoirGas
