import ReservoirGas.Completion
import ReservoirGas.Proofs.Tables
import ReservoirGas.Properties

namespace ReservoirGas

open Outcome

variable {α : Type}

namespace BranchSet

def surface (value : GasSample α → α) (s : BranchSet α) : Surface α :=
  ⟨s.nodes.map fun n ↦ ⟨n.pressure, n.samples.map fun x ↦ (x.ratio, value x)⟩⟩

theorem draft_eq_ok (value : GasSample α → α) (s : BranchSet α) :
    s.draft value = .ok ⟨(s.surface value).nodes⟩ :=
  Surface.Draft.foldlM_appendBranch _ _ s.nodes {}

theorem xs_surface (value : GasSample α → α) (s : BranchSet α) :
    (s.surface value).xs = s.pressures := by
  simp [surface, Surface.xs, pressures]

theorem branch_surface (value : GasSample α → α) (s : BranchSet α) (i : Nat) :
    (s.surface value).branch i = (s.branch i).map fun x ↦ (x.ratio, value x) := by
  simp only [Surface.branch, surface, List.getElem?_map, branch]
  cases s.nodes[i]? <;> rfl

theorem branchYs_surface (value : GasSample α → α) (s : BranchSet α) (i : Nat) :
    (s.surface value).branchYs i = (s.branch i).map GasSample.ratio := by
  rw [Surface.branchYs, branch_surface, List.map_map]
  rfl

theorem branchValues_surface (value : GasSample α → α) (s : BranchSet α) (i : Nat) :
    (s.surface value).branchValues i = (s.branch i).map value := by
  rw [Surface.branchValues, branch_surface, List.map_map]
  rfl

theorem forall_mem_nodes_iff {P : List (GasSample α) → Prop} {s : BranchSet α} :
    (∀ n ∈ s.nodes, P n.samples) ↔ ∀ i < s.size, P (s.branch i) := by
  constructor
  · intro h i hi
    rw [branch, List.getElem?_eq_getElem hi]
    exact h _ (List.getElem_mem hi)
  · intro h n hn
    obtain ⟨i, hi, rfl⟩ := List.mem_iff_getElem.mp hn
    have hbranch := h i hi
    rw [branch, List.getElem?_eq_getElem hi] at hbranch
    exact hbranch

variable [Scalar α]

structure Tabular (value : GasSample α → α) (samples : List (GasSample α)) : Prop where
  ne_nil : samples ≠ []
  finite : ∀ x ∈ samples, Scalar.isFinite x.ratio = true ∧ Scalar.isFinite (value x) = true
  increasing : Axis.Increasing (samples.map GasSample.ratio)

theorem sound_node_iff {value : GasSample α → α} {x : α} {samples : List (GasSample α)} :
    Surface.Node.Sound ⟨x, samples.map fun s ↦ (s.ratio, value s)⟩ ↔ Tabular value samples := by
  have hratios : (samples.map fun s ↦ (s.ratio, value s)).map Prod.fst = samples.map GasSample.ratio :=
    List.map_map
  constructor
  · intro h
    obtain ⟨hne, hfinite, hincreasing⟩ := h
    rw [hratios] at hincreasing
    exact ⟨mt List.map_eq_nil_iff.mpr hne, List.forall_mem_map.mp hfinite, hincreasing⟩
  · intro h
    refine ⟨mt List.map_eq_nil_iff.mp h.ne_nil, List.forall_mem_map.mpr h.finite, ?_⟩
    rw [hratios]
    exact h.increasing

theorem forall_sound_surface_iff {value : GasSample α → α} {s : BranchSet α} :
    (∀ n ∈ (s.surface value).nodes, n.Sound) ↔ ∀ i < s.size, Tabular value (s.branch i) := by
  rw [surface, List.forall_mem_map, ← forall_mem_nodes_iff]
  simp only [sound_node_iff]

/-- Whether a set makes a surface is seen from its pressures and, node by node, from its branches. -/
theorem sound_surface_iff {value : GasSample α → α} {s : BranchSet α} :
    (s.surface value).Sound ↔ s.nodes ≠ [] ∧ Axis.Finite s.pressures ∧ Axis.Increasing s.pressures ∧
      ∀ i < s.size, Tabular value (s.branch i) := by
  rw [← forall_sound_surface_iff, ← xs_surface value s]
  constructor
  · intro h
    exact ⟨mt List.map_eq_nil_iff.mpr h.ne_nil, h.finite, h.increasing, h.node⟩
  · intro h
    obtain ⟨hne, hfinite, hincreasing, hsound⟩ := h
    exact ⟨mt List.map_eq_nil_iff.mp hne, hfinite, hincreasing, hsound⟩

variable [Scalar.Ordered α]

theorem freeze_eq_ok_iff {s : BranchSet α} {f : Frozen α} :
    s.freeze = .ok f ↔ (s.surface inverseVolumeFactor).Sound ∧
      (s.surface GasSample.viscosity).Sound ∧
      f = ⟨s.surface inverseVolumeFactor, s.surface GasSample.viscosity⟩ := by
  simp only [freeze, draft_eq_ok, bind_eq_ok_iff, pure_eq_ok_iff, Except.ok.injEq,
    Surface.Draft.build_eq_ok_iff]
  constructor
  · intro h
    obtain ⟨_, rfl, _, rfl, ⟨nodes⟩, ⟨hsound, hnodes⟩, ⟨nodes'⟩, ⟨hsound', hnodes'⟩, rfl⟩ := h
    cases hnodes
    cases hnodes'
    exact ⟨hsound, hsound', rfl⟩
  · intro h
    obtain ⟨hsound, hsound', rfl⟩ := h
    exact ⟨_, rfl, _, rfl, _, ⟨hsound, rfl⟩, _, ⟨hsound', rfl⟩, rfl⟩

end BranchSet

namespace SaturatedCurves

variable [Scalar α] [Scalar.Ordered α]

def curve (t : GasTable α) (value : SaturatedRow α → α) : Curve α :=
  ⟨t.pressures.zip (t.saturated.map value)⟩

omit [Scalar α] [Scalar.Ordered α] in
theorem xs_curve (t : GasTable α) (value : SaturatedRow α → α) : (curve t value).xs = t.pressures := by
  apply Curve.xs_mk_zip
  simp [GasTable.pressures]

omit [Scalar α] [Scalar.Ordered α] in
theorem ys_curve (t : GasTable α) (value : SaturatedRow α → α) :
    (curve t value).ys = t.saturated.map value := by
  simp [curve, Curve.ys, GasTable.pressures, List.map_snd_zip]

def columns : List (SaturatedRow α → α) :=
  [SaturatedRow.volumeFactor, fun r ↦ Scalar.one / r.volumeFactor,
    fun r ↦ Scalar.one / (r.viscosity * r.volumeFactor), SaturatedRow.ratio]

def ofColumns (t : GasTable α) : SaturatedCurves α :=
  ⟨curve t SaturatedRow.volumeFactor, curve t fun r ↦ Scalar.one / r.volumeFactor,
    curve t fun r ↦ Scalar.one / (r.viscosity * r.volumeFactor), curve t SaturatedRow.ratio⟩

theorem ofTable_eq_ok_iff {t : GasTable α} {c : SaturatedCurves α} :
    ofTable t = .ok c ↔ (2 ≤ t.saturated.length ∧ Axis.Finite t.pressures ∧
      Axis.Increasing t.pressures) ∧ (∀ value ∈ columns, Axis.Finite (t.saturated.map value)) ∧
      c = ofColumns t := by
  have hcurve (value : SaturatedRow α → α) (c : Curve α) :
      Curve.ofColumns t.pressures (t.saturated.map value) = .ok c ↔
        (2 ≤ t.saturated.length ∧ Axis.Finite t.pressures ∧ Axis.Increasing t.pressures) ∧
        Axis.Finite (t.saturated.map value) ∧ c = curve t value := by
    simp only [Curve.ofColumns_eq_ok_iff, GasTable.pressures, List.length_map, Curve.minPoints,
      true_and, and_assoc]
    tauto
  simp only [ofTable, bind_eq_ok_iff, pure_eq_ok_iff, hcurve]
  constructor
  · intro h
    obtain ⟨_, ⟨hrows, h₁, rfl⟩, _, ⟨-, h₂, rfl⟩, _, ⟨-, h₃, rfl⟩, _, ⟨-, h₄, rfl⟩, rfl⟩ := h
    refine ⟨hrows, ?_, rfl⟩
    simp only [columns, List.forall_mem_cons]
    exact ⟨h₁, h₂, h₃, h₄, fun _ h ↦ absurd h List.not_mem_nil⟩
  · intro h
    obtain ⟨hrows, hcolumns, rfl⟩ := h
    simp only [columns, List.forall_mem_cons] at hcolumns
    obtain ⟨h₁, h₂, h₃, h₄, -⟩ := hcolumns
    exact ⟨_, ⟨hrows, h₁, rfl⟩, _, ⟨hrows, h₂, rfl⟩, _, ⟨hrows, h₃, rfl⟩, _, ⟨hrows, h₄, rfl⟩, rfl⟩

end SaturatedCurves

end ReservoirGas
