import ReservoirGas.Proofs.Acceptance
import ReservoirGas.Proofs.Completion
import ReservoirGas.Proofs.Freezing
import ReservoirGas.Properties

namespace ReservoirGas

open Outcome

variable {α : Type} [Scalar α]

def Surface.Finite (s : Surface α) : Prop :=
  Axis.Finite s.xs ∧ ∀ n ∈ s.nodes, ∀ p ∈ n.branch,
    Scalar.isFinite p.1 = true ∧ Scalar.isFinite p.2 = true

def Curve.Finite (c : Curve α) : Prop :=
  Axis.Finite c.xs ∧ Axis.Finite c.ys

theorem Surface.Sound.finite_all {s : Surface α} (h : s.Sound) : s.Finite :=
  ⟨h.finite, fun n hn ↦ (h.node n hn).finite⟩

theorem Surface.Sound.increasing_branchYs {s : Surface α} (h : s.Sound) (i : Nat) :
    Axis.Increasing (s.branchYs i) := by
  rw [branchYs, branch]
  cases hi : s.nodes[i]? with
  | none => exact List.Pairwise.nil
  | some n => exact (h.node n (List.mem_of_getElem? hi)).increasing

namespace SaturatedCurves

def all (c : SaturatedCurves α) : List (Curve α) :=
  [c.volumeFactor, c.inverseVolumeFactor, c.inverseViscosityFactor, c.ratio]

theorem all_ofColumns (t : GasTable α) : (ofColumns t).all = columns.map (curve t) := rfl

variable [Scalar.Ordered α] {t : GasTable α} {s : SaturatedCurves α}

theorem xs_of_ofTable (h : ofTable t = .ok s) : ∀ c ∈ s.all, c.xs = t.pressures := by
  intro c hc
  obtain ⟨-, -, rfl⟩ := ofTable_eq_ok_iff.mp h
  rw [all_ofColumns] at hc
  obtain ⟨value, -, rfl⟩ := List.mem_map.mp hc
  exact xs_curve t value

theorem ys_of_ofTable (h : ofTable t = .ok s) :
    s.all.map Curve.ys = columns.map fun value ↦ t.saturated.map value := by
  obtain ⟨-, -, rfl⟩ := ofTable_eq_ok_iff.mp h
  rw [all_ofColumns, List.map_map]
  exact List.map_congr_left fun value _ ↦ ys_curve t value

theorem finite_of_ofTable (h : ofTable t = .ok s) : ∀ c ∈ s.all, c.Finite := by
  intro c hc
  obtain ⟨⟨-, hpressures, -⟩, hcolumns, rfl⟩ := ofTable_eq_ok_iff.mp h
  rw [all_ofColumns] at hc
  obtain ⟨value, hvalue, rfl⟩ := List.mem_map.mp hc
  rw [Curve.Finite, xs_curve, ys_curve]
  exact ⟨hpressures, hcolumns value hvalue⟩

omit [Scalar.Ordered α] in
theorem abscissa_of_accepted (ht : t.Accepted) (value : SaturatedRow α → α) :
    t.pressures.length = (t.saturated.map value).length ∧ Curve.minPoints ≤ t.pressures.length ∧
      Axis.Finite t.pressures := by
  refine ⟨?_, ?_, finite_pressures ht.row⟩
  · rw [GasTable.pressures, List.length_map, List.length_map]
  · rw [GasTable.pressures, List.length_map]
    exact ht.two_le

theorem exists_curve_iff (ht : t.Accepted) {value : SaturatedRow α → α} :
    (∃ c, Curve.ofColumns t.pressures (t.saturated.map value) = .ok c) ↔
      Axis.Finite (t.saturated.map value) := by
  obtain ⟨hlengths, hpoints, hfinite⟩ := abscissa_of_accepted ht value
  simp only [Curve.ofColumns_eq_ok_iff]
  constructor
  · intro h
    obtain ⟨c, ⟨-, -, -, hvalues, -⟩, -⟩ := h
    exact hvalues
  · intro h
    exact ⟨_, ⟨hlengths, hpoints, hfinite, h, ht.increasing⟩, rfl⟩

theorem curve_eq_error_iff (ht : t.Accepted) {value : SaturatedRow α → α} {e : TableError} :
    Curve.ofColumns t.pressures (t.saturated.map value) = .error e ↔
      ∃ i, Axis.FirstNonFinite (t.saturated.map value) i ∧ e = .nonFinite "y" i := by
  obtain ⟨hlengths, hpoints, hfinite⟩ := abscissa_of_accepted ht value
  rw [Curve.ofColumns_eq_error_iff]
  constructor
  · intro h
    cases h with
    | lengths hne => exact absurd hlengths hne
    | short _ hshort => exact absurd hpoints (Nat.not_le.mpr hshort)
    | abscissa _ _ hfirst => exact absurd hfinite hfirst.not_finite
    | ordinate _ _ _ hfirst => exact ⟨_, hfirst, rfl⟩
    | order _ _ _ _ hdrop => exact absurd ht.increasing hdrop.not_increasing
  · intro h
    obtain ⟨i, hfirst, rfl⟩ := h
    exact .ordinate hlengths hpoints hfinite hfirst

theorem ofTable_eq_error_iff (ht : t.Accepted) {e : TableError} : ofTable t = .error e ↔ ∃ i,
    (Axis.FirstNonFinite (t.saturated.map fun r ↦ Scalar.one / r.volumeFactor) i ∨
      Axis.Finite (t.saturated.map fun r ↦ Scalar.one / r.volumeFactor) ∧
        Axis.FirstNonFinite (t.saturated.map fun r ↦ Scalar.one / (r.viscosity * r.volumeFactor)) i) ∧
    e = .nonFinite "y" i := by
  -- acceptance leaves only the two columns of inverses in doubt
  have hfactor : Axis.Finite (t.saturated.map SaturatedRow.volumeFactor) :=
    List.forall_mem_map.mpr fun r hr ↦ isFinite_of_isPositive (ht.row r hr).volumeFactor
  have hratio : Axis.Finite (t.saturated.map SaturatedRow.ratio) :=
    List.forall_mem_map.mpr fun r hr ↦ (ht.row r hr).ratio
  simp only [ofTable, bind_eq_error_iff, pure_ne_error, and_false, exists_false, or_false,
    exists_and_right, exists_curve_iff ht, curve_eq_error_iff ht]
  constructor
  · intro h
    rcases h with ⟨i, hfirst, -⟩ | ⟨-, ⟨i, hfirst, rfl⟩ | ⟨hinverse, ⟨i, hfirst, rfl⟩ | ⟨-, i, hfirst, -⟩⟩⟩
    · exact absurd hfactor hfirst.not_finite
    · exact ⟨i, .inl hfirst, rfl⟩
    · exact ⟨i, .inr ⟨hinverse, hfirst⟩, rfl⟩
    · exact absurd hratio hfirst.not_finite
  · intro h
    obtain ⟨i, hfirst | ⟨hinverse, hfirst⟩, rfl⟩ := h
    · exact .inr ⟨hfactor, .inl ⟨i, hfirst, rfl⟩⟩
    · exact .inr ⟨hfactor, .inr ⟨hinverse, .inl ⟨i, hfirst, rfl⟩⟩⟩

theorem exists_ofTable_iff (ht : t.Accepted) : (∃ c, ofTable t = .ok c) ↔
    Axis.Finite (t.saturated.map fun r ↦ Scalar.one / r.volumeFactor) ∧
      Axis.Finite (t.saturated.map fun r ↦ Scalar.one / (r.viscosity * r.volumeFactor)) := by
  constructor
  · intro h
    obtain ⟨c, hc⟩ := h
    obtain ⟨-, hcolumns, -⟩ := ofTable_eq_ok_iff.mp hc
    exact ⟨hcolumns _ (by simp [columns]), hcolumns _ (by simp [columns])⟩
  · intro h
    obtain ⟨hinverse, hproduct⟩ := h
    cases hc : ofTable t with
    | ok c => exact ⟨c, rfl⟩
    | error e =>
      obtain ⟨i, hfirst | ⟨-, hfirst⟩, -⟩ := (ofTable_eq_error_iff ht).mp hc
      · exact absurd hinverse hfirst.not_finite
      · exact absurd hproduct hfirst.not_finite

end SaturatedCurves

namespace GasProperties

/-- `g` has the tables of the raw table `t`: all of them along its pressures, and at each of its nodes a
branch that goes on from the supplied samples. -/
structure Tabulates (g : GasProperties α) (t : GasTable α) : Prop where
  inverse_xs : g.inverseVolumeFactor.xs = t.pressures
  viscosity_xs : g.viscosity.xs = t.pressures
  curve_xs : ∀ c ∈ g.saturated.all, c.xs = t.pressures
  inner_axis : ∀ i, g.inverseVolumeFactor.branchYs i = g.viscosity.branchYs i
  two_le : ∀ i < t.saturated.length, 2 ≤ (g.inverseVolumeFactor.branchYs i).length
  increasing : ∀ i, Axis.Increasing (g.inverseVolumeFactor.branchYs i)
  supplied : ∀ i < t.saturated.length,
    (t.branch i).map GasSample.ratio <+: g.inverseVolumeFactor.branchYs i
  inverse_finite : g.inverseVolumeFactor.Finite
  viscosity_finite : g.viscosity.Finite
  curve_finite : ∀ c ∈ g.saturated.all, c.Finite

end GasProperties

namespace BranchSet

omit [Scalar α]

theorem size_ofTable (t : GasTable α) : (ofTable t).size = t.saturated.length := by
  simp [size, ofTable, GasTable.pressures]

theorem pressures_ofTable (t : GasTable α) : (ofTable t).pressures = t.pressures := by
  simp [pressures, ofTable, Function.comp_def]

theorem branch_ofTable {t : GasTable α} {i : Nat} (hi : i < t.saturated.length) :
    (ofTable t).branch i = t.branch i := by
  have hp : t.pressures[i]? = some t.saturated[i].pressure := by
    simp [GasTable.pressures, List.getElem?_eq_getElem hi]
  simp [branch, ofTable, hp]

theorem physicalBranch_ofTable [Scalar α] {t : GasTable α} (h : t.Accepted) :
    ∀ i < (ofTable t).size, GasSample.PhysicalBranch ((ofTable t).branch i) := by
  intro i hi
  rw [size_ofTable] at hi
  rw [branch_ofTable hi]
  exact h.branch i hi

end BranchSet

namespace GasProperties

variable {family : Family} {region : Region.Id} {t : GasTable α}
  {g : GasProperties α}

theorem ofTable_eq_ok_iff :
    ofTable family region t = .ok g ↔ ∃ c : BranchSet.Completed α,
      minSaturatedRows ≤ t.saturated.length ∧
      SaturatedCurves.ofTable t = .ok g.saturated ∧
      (BranchSet.ofTable t).complete family region = .ok c ∧
      c.branches.freeze = .ok ⟨g.inverseVolumeFactor, g.viscosity⟩ ∧
      g.family = family ∧ g.extensions = c.extensions := by
  rw [ofTable, seq_eq_ok_iff, TableOrigin.accept_tooShort_iff]
  simp only [bind_eq_ok_iff, mapError_eq_ok_iff, pure_eq_ok_iff]
  constructor
  · intro h
    obtain ⟨hlen, saturated, hsaturated, c, hc, f, hf, rfl⟩ := h
    exact ⟨c, hlen, hsaturated, hc, hf, rfl, rfl⟩
  · intro h
    obtain ⟨c, hlen, hsaturated, hc, hf, rfl, hext⟩ := h
    exact ⟨hlen, g.saturated, hsaturated, c, hc, _, hf, by rw [← hext]⟩

/-- Both surfaces hold the samples of the completed set `c`, and the record is the record of `c`. -/
structure Holds (g : GasProperties α) (c : BranchSet.Completed α) : Prop where
  inverse_eq : g.inverseVolumeFactor = c.branches.surface BranchSet.inverseVolumeFactor
  viscosity_eq : g.viscosity = c.branches.surface GasSample.viscosity
  inverse_sound : g.inverseVolumeFactor.Sound
  viscosity_sound : g.viscosity.Sound
  extensions_eq : g.extensions = c.extensions

theorem exists_holds_of_ofTable [Scalar.Ordered α] (h : ofTable family region t = .ok g) :
    ∃ c, (BranchSet.ofTable t).complete family region = .ok c ∧ g.Holds c := by
  obtain ⟨c, -, -, hc, hfrozen, -, hextensions⟩ := ofTable_eq_ok_iff.mp h
  obtain ⟨hinverse, hviscosity, hf⟩ := BranchSet.freeze_eq_ok_iff.mp hfrozen
  obtain ⟨hi, hv⟩ : g.inverseVolumeFactor = c.branches.surface BranchSet.inverseVolumeFactor ∧
      g.viscosity = c.branches.surface GasSample.viscosity :=
    ⟨congrArg BranchSet.Frozen.inverseVolumeFactor hf, congrArg BranchSet.Frozen.viscosity hf⟩
  exact ⟨c, hc, hi, hv, hi ▸ hinverse, hv ▸ hviscosity, hextensions⟩

theorem tabulates_of_ofTable [Scalar.Ordered α] (h : ofTable family region t = .ok g) :
    g.Tabulates t := by
  obtain ⟨-, -, hsaturated, -⟩ := ofTable_eq_ok_iff.mp h
  obtain ⟨c, hc, hi, hv, hinverse, hviscosity, -⟩ := exists_holds_of_ofTable h
  obtain ⟨hraw, hcompletes⟩ := BranchSet.completes_of_complete hc
  have hp : c.branches.pressures = t.pressures :=
    hcompletes.pressures.trans (BranchSet.pressures_ofTable t)
  refine ⟨?_, ?_, SaturatedCurves.xs_of_ofTable hsaturated, ?_, ?_, hinverse.increasing_branchYs, ?_,
    hinverse.finite_all, hviscosity.finite_all, SaturatedCurves.finite_of_ofTable hsaturated⟩
  · rw [hi, BranchSet.xs_surface, hp]
  · rw [hv, BranchSet.xs_surface, hp]
  · intro i
    rw [hi, hv, BranchSet.branchYs_surface, BranchSet.branchYs_surface]
  · intro i hlt
    rw [hi, BranchSet.branchYs_surface, List.length_map]
    exact hcompletes.two_le hraw (by rw [BranchSet.size_ofTable]; exact hlt)
  · intro i hlt
    rw [hi, BranchSet.branchYs_surface, ← BranchSet.branch_ofTable hlt]
    exact (hcompletes.isPrefix hraw (by rw [BranchSet.size_ofTable]; exact hlt)).map _

end GasProperties

end ReservoirGas
