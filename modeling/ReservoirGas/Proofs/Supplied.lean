import ReservoirGas.Proofs.Acceptance
import ReservoirGas.Proofs.Binary64
import ReservoirGas.Proofs.Properties

namespace ReservoirGas

section Prefix

variable {β : Type} {branches : List (List β)} {n : Nat}

theorem map_range_getD_eq_take (h : ∀ i < n, branches[i]?.getD [] ≠ []) :
    n ≤ branches.length ∧ (List.range n).map (fun i ↦ branches[i]?.getD []) = branches.take n := by
  have hle : n ≤ branches.length := by
    by_contra hlt
    refine h branches.length (Nat.lt_of_not_le hlt) ?_
    rw [List.getElem?_eq_none (Nat.le_refl _), Option.getD_none]
  refine ⟨hle, List.ext_getElem (by simp [hle]) fun i hi _ ↦ ?_⟩
  rw [List.length_map, List.length_range] at hi
  have hlt : i < branches.length := by omega
  rw [List.getElem_map, List.getElem_range, List.getElem_take, List.getElem?_eq_getElem hlt,
    Option.getD_some]

theorem getElem?_eq_of_take_eq {branches' : List (List β)} {i : Nat}
    (h : branches'.take n = branches.take n) (hi : i < n) : branches'[i]? = branches[i]? := by
  rw [← List.getElem?_take_of_lt hi, h, List.getElem?_take_of_lt hi]

theorem take_take_append (surplus : List (List β)) (h : n ≤ branches.length) :
    (branches.take n ++ surplus).take n = branches.take n := by
  rw [List.take_append_of_le_length (by rw [List.length_take]; omega), List.take_take, Nat.min_self]

theorem take_eq_self_iff (h : n ≤ branches.length) : branches.take n = branches ↔ branches.length = n := by
  constructor
  · intro htake
    have hlength := congrArg List.length htake
    rw [List.length_take] at hlength
    omega
  · intro hlength
    exact List.take_of_length_le (Nat.le_of_eq hlength)

/-- Of the supplied branches, those of the first `rows` places are there and kept in order. The others are
left out, so that all are kept only if there are no others. -/
structure KeepsRows (rows : Nat) (supplied kept : List (List β)) : Prop where
  rows_le : rows ≤ supplied.length
  kept_eq : kept = supplied.take rows
  complete_iff : kept = supplied ↔ supplied.length = rows

theorem keepsRows_take (h : n ≤ branches.length) : KeepsRows n branches (branches.take n) :=
  ⟨h, rfl, take_eq_self_iff h⟩

end Prefix

variable {α : Type}

namespace GasTable

/-- The tables differ in the sub-tables beyond the rows only. -/
structure SameChecked (t t' : GasTable α) : Prop where
  saturated : t'.saturated = t.saturated
  samples : t'.undersaturated.take t.saturated.length = t.undersaturated.take t.saturated.length

theorem SameChecked.branch_eq {t t' : GasTable α} (h : t.SameChecked t') {i : Nat}
    (hi : i < t.saturated.length) : t'.branch i = t.branch i := by
  rw [branch, getElem?_eq_of_take_eq h.samples hi, branch]

def withSurplus (t : GasTable α) (surplus : List (List (GasSample α))) : GasTable α :=
  { t with undersaturated := t.undersaturated.take t.saturated.length ++ surplus }

theorem samples_ofTable (t : GasTable α) :
    (BranchSet.ofTable t).nodes.map BranchSet.Node.samples = (List.range t.saturated.length).map t.branch := by
  rw [BranchSet.ofTable, List.map_map]
  apply List.ext_getElem
  · simp [pressures]
  · intro i hi hi'
    simp

section Surplus

variable {t : GasTable α} (surplus : List (List (GasSample α)))

theorem sameChecked_withSurplus (h : t.saturated.length ≤ t.undersaturated.length) :
    t.SameChecked (t.withSurplus surplus) :=
  ⟨rfl, take_take_append surplus h⟩

theorem ofTable_withSurplus (h : t.saturated.length ≤ t.undersaturated.length) :
    BranchSet.ofTable (t.withSurplus surplus) = BranchSet.ofTable t := by
  have hnodes : ∀ p ∈ t.pressures.zipIdx,
      (⟨p.1, (t.withSurplus surplus).branch p.2⟩ : BranchSet.Node α) = ⟨p.1, t.branch p.2⟩ := by
    intro p hp
    rw [(sameChecked_withSurplus surplus h).branch_eq (lt_of_mem_zipIdx hp)]
  exact congrArg BranchSet.mk (List.map_congr_left hnodes)

end Surplus

variable [Scalar α] {t : GasTable α}

theorem Accepted.take (h : t.Accepted) :
    t.saturated.length ≤ t.undersaturated.length ∧
      (List.range t.saturated.length).map t.branch = t.undersaturated.take t.saturated.length :=
  map_range_getD_eq_take fun i hi ↦ (h.branch i hi).ne_nil

theorem Accepted.withSurplus (h : t.Accepted) (surplus : List (List (GasSample α))) :
    (t.withSurplus surplus).Accepted where
  two_le := h.two_le
  row := h.row
  increasing := h.increasing
  branch i hi := by
    rw [(sameChecked_withSurplus surplus h.take.1).branch_eq hi]
    exact h.branch i hi

end GasTable

namespace SaltTable

/-- The tables differ in the ratios of their rows and in the sub-tables beyond the rows only. -/
structure SameChecked (t t' : SaltTable α) : Prop where
  pressures : t'.pressures = t.pressures
  samples : t'.undersaturated.take t.saturated.length = t.undersaturated.take t.saturated.length

theorem SameChecked.branch_eq {t t' : SaltTable α} (h : t.SameChecked t') {i : Nat}
    (hi : i < t.saturated.length) : t'.branch i = t.branch i := by
  rw [branch, getElem?_eq_of_take_eq h.samples hi, branch]

def withSurplus (t : SaltTable α) (surplus : List (List (SaltSample α))) : SaltTable α :=
  { t with undersaturated := t.undersaturated.take t.saturated.length ++ surplus }

theorem branches_tabulated (t : SaltTable α) :
    t.tabulated.nodes.map Surface.Node.branch = (List.range t.saturated.length).map fun i ↦
      (t.branch i).map fun s ↦ (s.concentration, s.ratio) := by
  rw [tabulated, List.map_map]
  apply List.ext_getElem
  · simp [pressures]
  · intro i hi hi'
    simp

section Surplus

variable {t : SaltTable α} (surplus : List (List (SaltSample α)))

theorem sameChecked_withSurplus (h : t.saturated.length ≤ t.undersaturated.length) :
    t.SameChecked (t.withSurplus surplus) :=
  ⟨rfl, take_take_append surplus h⟩

theorem tabulated_withSurplus (h : t.saturated.length ≤ t.undersaturated.length) :
    (t.withSurplus surplus).tabulated = t.tabulated := by
  have hnodes : ∀ p ∈ t.pressures.zipIdx,
      (⟨p.1, ((t.withSurplus surplus).branch p.2).map fun s ↦ (s.concentration, s.ratio)⟩ : Surface.Node α) =
        ⟨p.1, (t.branch p.2).map fun s ↦ (s.concentration, s.ratio)⟩ := by
    intro p hp
    rw [(sameChecked_withSurplus surplus h).branch_eq (lt_of_mem_zipIdx hp)]
  exact congrArg Surface.mk (List.map_congr_left hnodes)

end Surplus

variable [Scalar α] {t : SaltTable α}

theorem Accepted.take (h : t.Accepted) :
    t.saturated.length ≤ t.undersaturated.length ∧
      (List.range t.saturated.length).map t.branch = t.undersaturated.take t.saturated.length :=
  map_range_getD_eq_take fun i hi ↦ (h.branch i hi).ne_nil

theorem Accepted.withSurplus (h : t.Accepted) (surplus : List (List (SaltSample α))) :
    (t.withSurplus surplus).Accepted where
  two_le := h.two_le
  pressure := h.pressure
  increasing := h.increasing
  branch i hi := by
    rw [(sameChecked_withSurplus surplus h.take.1).branch_eq hi]
    exact h.branch i hi

end SaltTable

theorem GasTable.Accepted.keepsRows [Scalar α] {t : GasTable α} (h : t.Accepted) :
    KeepsRows t.saturated.length t.undersaturated
      ((BranchSet.ofTable t).nodes.map BranchSet.Node.samples) := by
  rw [samples_ofTable, h.take.2]
  exact keepsRows_take h.take.1

theorem SaltTable.Accepted.keepsRows [Scalar α] {t : SaltTable α} (h : t.Accepted) :
    KeepsRows t.saturated.length (t.undersaturated.map (List.map fun s ↦ (s.concentration, s.ratio)))
      (t.tabulated.nodes.map Surface.Node.branch) := by
  have hkept : (List.range t.saturated.length).map (fun i ↦
        (t.branch i).map fun s ↦ (s.concentration, s.ratio)) =
      (t.undersaturated.map (List.map fun s ↦ (s.concentration, s.ratio))).take t.saturated.length := by
    rw [← List.map_take, ← h.take.2, List.map_map]
    rfl
  rw [branches_tabulated, hkept]
  exact keepsRows_take (by rw [List.length_map]; exact h.take.1)

/-- An accepted gas table or salt table has a sub-table for every row, and the branches of the first and the
surface of the second hold all their samples once and in order. What was supplied beyond the rows is not
there, and it may be anything: the table is accepted just the same, and the same is made of it. -/
theorem supplied_of_check (region : Region.Id) :
    (∀ (family : Family) (t : GasTable Float), t.check family region = .ok () →
      KeepsRows t.saturated.length t.undersaturated
        ((BranchSet.ofTable t).nodes.map BranchSet.Node.samples) ∧
      ∀ surplus, (t.withSurplus surplus).check family region = .ok () ∧
        BranchSet.ofTable (t.withSurplus surplus) = BranchSet.ofTable t) ∧
    ∀ t : SaltTable Float, t.check region = .ok () →
      ∃ s, t.surface region = .ok s ∧
        KeepsRows t.saturated.length (t.undersaturated.map (List.map fun s ↦ (s.concentration, s.ratio)))
          (s.nodes.map Surface.Node.branch) ∧
        ∀ surplus, (t.withSurplus surplus).check region = .ok () ∧
          (t.withSurplus surplus).surface region = .ok s := by
  constructor
  · intro family t hcheck
    have haccepted := GasTable.check_eq_ok_iff.mp hcheck
    refine ⟨haccepted.keepsRows, fun surplus ↦ ⟨?_, ?_⟩⟩
    · exact GasTable.check_eq_ok_iff.mpr (haccepted.withSurplus surplus)
    · exact GasTable.ofTable_withSurplus surplus haccepted.take.1
  · intro t hcheck
    have haccepted := SaltTable.check_eq_ok_iff.mp hcheck
    refine ⟨t.tabulated, haccepted.surface_eq_ok, haccepted.keepsRows, fun surplus ↦ ⟨?_, ?_⟩⟩
    · exact SaltTable.check_eq_ok_iff.mpr (haccepted.withSurplus surplus)
    · rw [(haccepted.withSurplus surplus).surface_eq_ok, SaltTable.tabulated_withSurplus surplus haccepted.take.1]

def GasTable.overfull : GasTable Float where
  saturated := [⟨1, 2, 1, 1⟩, ⟨2, 1, 1, 2⟩]
  undersaturated := [[⟨1, 2, 1⟩], [⟨2, 1, 1⟩, ⟨3, 1, 1⟩], [⟨3, 1, 1⟩, ⟨2, 1, 1⟩]]

def SaltTable.overfull : SaltTable Float where
  saturated := [⟨1, 1⟩, ⟨2, 1⟩]
  undersaturated := [[⟨0, 1⟩], [⟨0, 2⟩, ⟨1, 1⟩], [⟨0, 3⟩]]

theorem supplied_overfull :
    (GasTable.overfull.check .wet (.ofNat 0) = .ok () ∧
      (BranchSet.ofTable GasTable.overfull).nodes.map BranchSet.Node.samples ≠
        GasTable.overfull.undersaturated) ∧
    SaltTable.overfull.check (.ofNat 0) = .ok () ∧
    ∃ s, SaltTable.overfull.surface (.ofNat 0) = .ok s ∧
      s.nodes.map Surface.Node.branch = [[(0, 1)], [(0, 2), (1, 1)]] := by
  obtain ⟨hgas, hsalt⟩ := supplied_of_check (.ofNat 0)
  have hgasCheck : GasTable.overfull.check .wet (.ofNat 0) = .ok () := by decide +kernel
  have hsaltCheck : SaltTable.overfull.check (.ofNat 0) = .ok () := by decide +kernel
  obtain ⟨hkept, -⟩ := hgas .wet GasTable.overfull hgasCheck
  obtain ⟨s, hs, hsamples, -⟩ := hsalt SaltTable.overfull hsaltCheck
  refine ⟨⟨hgasCheck, fun hall ↦ ?_⟩, hsaltCheck, s, hs, hsamples.kept_eq⟩
  have hthree : GasTable.overfull.undersaturated.length = 2 := hkept.complete_iff.mp hall
  cases hthree

end ReservoirGas
