import ReservoirGas.Acceptance
import ReservoirGas.Proofs.Tables
import ReservoirGas.Properties

namespace ReservoirGas

open Outcome

variable {α : Type} [Scalar α]

namespace TableOrigin

variable {o : TableOrigin}

omit [Scalar α] in
theorem tooShort_eq_nil_iff {rows : Nat} :
    (o.tooShort rows : List (PropertyError α)) = [] ↔ minSaturatedRows ≤ rows := by
  rw [tooShort, faultUnless_eq_nil_iff, decide_eq_true_eq]

omit [Scalar α] in
theorem accept_tooShort_iff {rows : Nat} :
    accept (o.tooShort rows : List (PropertyError α)) () = .ok () ↔ minSaturatedRows ≤ rows := by
  rw [accept_unit_eq_ok_iff, tooShort_eq_nil_iff]

theorem finite_eq_nil_iff {cell : Cell} {x : α} : o.finite cell x = [] ↔ Scalar.isFinite x = true :=
  faultUnless_eq_nil_iff

theorem positive_eq_nil_iff {cell : Cell} {x : α} : o.positive cell x = [] ↔ Scalar.isPositive x = true :=
  faultUnless_eq_nil_iff

omit [Scalar α] in
theorem present_eq_nil_iff {β : Type} {node : Nat} {branch : List β} :
    (o.present node branch : List (PropertyError α)) = [] ↔ branch ≠ [] := by
  rw [present, faultUnless_eq_nil_iff, Bool.not_eq_true', List.isEmpty_eq_false_iff]

theorem increasing_eq_nil_iff [Scalar.Ordered α] {cell : Nat → Cell} {xs : List α} (h : Axis.Finite xs) :
    o.increasing cell xs = [] ↔ Axis.Increasing xs := by
  rw [increasing, Option.toList_eq_nil_iff, Option.map_eq_none_iff,
    Axis.firstNonIncreasing_eq_none_of_finite h]

end TableOrigin

theorem isFinite_of_isPositive {x : α} (h : Scalar.isPositive x = true) : Scalar.isFinite x = true := by
  rw [Scalar.isPositive, Bool.and_eq_true] at h
  exact h.1

structure SaturatedRow.Physical (r : SaturatedRow α) : Prop where
  pressure : Scalar.isFinite r.pressure = true
  volumeFactor : Scalar.isPositive r.volumeFactor = true
  viscosity : Scalar.isPositive r.viscosity = true
  ratio : Scalar.isFinite r.ratio = true

structure GasSample.Physical (s : GasSample α) : Prop where
  ratio : Scalar.isFinite s.ratio = true
  volumeFactor : Scalar.isPositive s.volumeFactor = true
  viscosity : Scalar.isPositive s.viscosity = true

theorem finite_pressures {rows : List (SaturatedRow α)} (h : ∀ r ∈ rows, r.Physical) :
    Axis.Finite (rows.map SaturatedRow.pressure) :=
  List.forall_mem_map.mpr fun r hr ↦ (h r hr).pressure

theorem finite_ratios {branch : List (GasSample α)} (h : ∀ s ∈ branch, s.Physical) :
    Axis.Finite (branch.map GasSample.ratio) :=
  List.forall_mem_map.mpr fun s hs ↦ (h s hs).ratio

structure GasSample.PhysicalBranch (branch : List (GasSample α)) : Prop where
  ne_nil : branch ≠ []
  sample : ∀ s ∈ branch, s.Physical
  increasing : Axis.Increasing (branch.map ratio)

namespace GasTable

structure Accepted (t : GasTable α) : Prop where
  two_le : minSaturatedRows ≤ t.saturated.length
  row : ∀ r ∈ t.saturated, r.Physical
  increasing : Axis.Increasing t.pressures
  branch : ∀ i < t.saturated.length, GasSample.PhysicalBranch (t.branch i)

variable {family : Family} {o : TableOrigin}

theorem rowFaults_eq_nil_iff (row : Nat) (r : SaturatedRow α) :
    rowFaults family o row r = [] ↔ r.Physical := by
  simp only [rowFaults, List.append_eq_nil_iff, TableOrigin.finite_eq_nil_iff,
    TableOrigin.positive_eq_nil_iff]
  constructor
  · intro h
    obtain ⟨⟨⟨hpressure, hfactor⟩, hviscosity⟩, hratio⟩ := h
    exact ⟨hpressure, hfactor, hviscosity, hratio⟩
  · intro h
    exact ⟨⟨⟨h.pressure, h.volumeFactor⟩, h.viscosity⟩, h.ratio⟩

theorem sampleFaults_eq_nil_iff {node : Nat} (row : Nat) (s : GasSample α) :
    sampleFaults family o node row s = [] ↔ s.Physical := by
  simp only [sampleFaults, List.append_eq_nil_iff, TableOrigin.finite_eq_nil_iff,
    TableOrigin.positive_eq_nil_iff]
  constructor
  · intro h
    obtain ⟨⟨hratio, hfactor⟩, hviscosity⟩ := h
    exact ⟨hratio, hfactor, hviscosity⟩
  · intro h
    exact ⟨⟨h.ratio, h.volumeFactor⟩, h.viscosity⟩

variable [Scalar.Ordered α]

theorem branchFaults_eq_nil_iff {node : Nat} {branch : List (GasSample α)} :
    branchFaults family o node branch = [] ↔ GasSample.PhysicalBranch branch := by
  simp only [branchFaults, List.append_eq_nil_iff, TableOrigin.present_eq_nil_iff,
    flatMap_zipIdx_eq_nil_iff sampleFaults_eq_nil_iff]
  constructor
  · intro h
    obtain ⟨⟨hne, hsample⟩, hincreasing⟩ := h
    refine ⟨hne, hsample, (TableOrigin.increasing_eq_nil_iff ?_).mp hincreasing⟩
    exact List.forall_mem_map.mpr fun s hs ↦ (hsample s hs).ratio
  · intro h
    refine ⟨⟨h.ne_nil, h.sample⟩, (TableOrigin.increasing_eq_nil_iff ?_).mpr h.increasing⟩
    exact List.forall_mem_map.mpr fun s hs ↦ (h.sample s hs).ratio

theorem faults_eq_nil_iff {region : Region.Id} {t : GasTable α} :
    t.faults family region = [] ↔ t.Accepted := by
  simp only [faults, List.append_eq_nil_iff, TableOrigin.tooShort_eq_nil_iff,
    flatMap_zipIdx_eq_nil_iff rowFaults_eq_nil_iff, List.flatMap_eq_nil_iff,
    List.mem_range, branchFaults_eq_nil_iff]
  constructor
  · intro h
    obtain ⟨⟨⟨hrows, hrow⟩, hincreasing⟩, hbranch⟩ := h
    exact ⟨hrows, hrow, (TableOrigin.increasing_eq_nil_iff (finite_pressures hrow)).mp hincreasing, hbranch⟩
  · intro h
    refine ⟨⟨⟨h.two_le, h.row⟩, ?_⟩, h.branch⟩
    exact (TableOrigin.increasing_eq_nil_iff (finite_pressures h.row)).mpr h.increasing

theorem check_eq_ok_iff {region : Region.Id} {t : GasTable α} :
    t.check family region = .ok () ↔ t.Accepted := by
  rw [check, accept_unit_eq_ok_iff, faults_eq_nil_iff]

omit [Scalar α] [Scalar.Ordered α] in
theorem lt_of_mem_zipIdx {t : GasTable α} {p : α × Nat} (h : p ∈ t.pressures.zipIdx) :
    p.2 < t.saturated.length := by
  have hlt := (List.getElem?_eq_some_iff.mp (List.mem_zipIdx_iff_getElem?.mp h)).1
  rwa [pressures, List.length_map] at hlt

end GasTable

structure SaltSample.FiniteBranch (branch : List (SaltSample α)) : Prop where
  ne_nil : branch ≠ []
  sample : ∀ s ∈ branch, Scalar.isFinite s.concentration = true ∧ Scalar.isFinite s.ratio = true
  increasing : Axis.Increasing (branch.map concentration)

namespace SaltTable

structure Accepted (t : SaltTable α) : Prop where
  two_le : minSaturatedRows ≤ t.saturated.length
  pressure : ∀ r ∈ t.saturated, Scalar.isFinite r.pressure = true
  increasing : Axis.Increasing t.pressures
  branch : ∀ i < t.saturated.length, SaltSample.FiniteBranch (t.branch i)

section Draft

omit [Scalar α]

def tabulated (t : SaltTable α) : Surface α :=
  ⟨t.pressures.zipIdx.map fun p ↦ ⟨p.1, (t.branch p.2).map fun s ↦ (s.concentration, s.ratio)⟩⟩

theorem draft_eq_ok (t : SaltTable α) : t.draft = .ok ⟨t.tabulated.nodes⟩ :=
  Surface.Draft.foldlM_appendBranch (fun p : α × Nat ↦ p.1)
    (fun p ↦ (t.branch p.2).map fun s : SaltSample α ↦ (s.concentration, s.ratio)) t.pressures.zipIdx {}

theorem xs_tabulated (t : SaltTable α) : t.tabulated.xs = t.pressures := by
  simp [tabulated, Surface.xs, Function.comp_def]

theorem lt_of_mem_zipIdx {t : SaltTable α} {p : α × Nat} (h : p ∈ t.pressures.zipIdx) :
    p.2 < t.saturated.length := by
  have hlt := (List.getElem?_eq_some_iff.mp (List.mem_zipIdx_iff_getElem?.mp h)).1
  rwa [pressures, List.length_map] at hlt

theorem mem_nodes_tabulated {t : SaltTable α} {n : Surface.Node α} (h : n ∈ t.tabulated.nodes) :
    ∃ i < t.saturated.length, n.branch = (t.branch i).map fun s ↦ (s.concentration, s.ratio) := by
  obtain ⟨p, hp, rfl⟩ := List.mem_map.mp h
  exact ⟨p.2, lt_of_mem_zipIdx hp, rfl⟩

end Draft

theorem Accepted.sound_tabulated {t : SaltTable α} (h : t.Accepted) : t.tabulated.Sound where
  ne_nil := by
    intro hnil
    have hxs := congrArg List.length (xs_tabulated t)
    have htwo : 2 ≤ t.saturated.length := h.two_le
    rw [Surface.xs, hnil, pressures, List.length_map, List.length_map, List.length_nil] at hxs
    omega
  finite := by
    rw [xs_tabulated]
    exact List.forall_mem_map.mpr h.pressure
  increasing := by
    rw [xs_tabulated]
    exact h.increasing
  node := by
    intro n hn
    obtain ⟨i, hi, hbranch⟩ := mem_nodes_tabulated hn
    have hfinite := h.branch i hi
    refine ⟨?_, ?_, ?_⟩
    · rw [hbranch, ne_eq, List.map_eq_nil_iff]
      exact hfinite.ne_nil
    · rw [hbranch]
      exact List.forall_mem_map.mpr hfinite.sample
    · rw [hbranch, List.map_map]
      exact hfinite.increasing

variable [Scalar.Ordered α]

theorem branchFaults_eq_nil_iff {o : TableOrigin} {node : Nat} {branch : List (SaltSample α)} :
    branchFaults o node branch = [] ↔ SaltSample.FiniteBranch branch := by
  have hsample (row : Nat) (s : SaltSample α) :
      o.finite (.undersaturated .saltConcentration row node) s.concentration ++
        o.finite (.undersaturated .saltRatio row node) s.ratio = [] ↔
      Scalar.isFinite s.concentration = true ∧ Scalar.isFinite s.ratio = true := by
    rw [List.append_eq_nil_iff, TableOrigin.finite_eq_nil_iff, TableOrigin.finite_eq_nil_iff]
  simp only [branchFaults, flatMap_zipIdx_eq_nil_iff hsample, List.append_eq_nil_iff,
    TableOrigin.present_eq_nil_iff]
  constructor
  · intro h
    obtain ⟨⟨hne, hsample⟩, hincreasing⟩ := h
    refine ⟨hne, hsample, (TableOrigin.increasing_eq_nil_iff ?_).mp hincreasing⟩
    exact List.forall_mem_map.mpr fun s hs ↦ (hsample s hs).1
  · intro h
    refine ⟨⟨h.ne_nil, h.sample⟩, (TableOrigin.increasing_eq_nil_iff ?_).mpr h.increasing⟩
    exact List.forall_mem_map.mpr fun s hs ↦ (h.sample s hs).1

theorem check_eq_ok_iff {region : Region.Id} {t : SaltTable α} :
    t.check region = .ok () ↔ t.Accepted := by
  have hrow (o : TableOrigin) (row : Nat) (r : SaltSaturatedRow α) :
      o.finite (.saturated .pressure row) r.pressure = [] ↔ Scalar.isFinite r.pressure = true :=
    TableOrigin.finite_eq_nil_iff
  simp only [check, accept_unit_eq_ok_iff, faults, List.append_eq_nil_iff,
    TableOrigin.tooShort_eq_nil_iff, flatMap_zipIdx_eq_nil_iff (hrow _), List.flatMap_eq_nil_iff,
    List.mem_range, branchFaults_eq_nil_iff]
  constructor
  · intro h
    obtain ⟨⟨⟨hrows, hpressure⟩, hincreasing⟩, hbranch⟩ := h
    refine ⟨hrows, hpressure, (TableOrigin.increasing_eq_nil_iff ?_).mp hincreasing, hbranch⟩
    exact List.forall_mem_map.mpr hpressure
  · intro h
    refine ⟨⟨⟨h.two_le, h.pressure⟩, (TableOrigin.increasing_eq_nil_iff ?_).mpr h.increasing⟩, h.branch⟩
    exact List.forall_mem_map.mpr h.pressure

theorem Accepted.surface_eq_ok {region : Region.Id} {t : SaltTable α} (h : t.Accepted) :
    t.surface region = .ok t.tabulated := by
  have hbuild : Surface.Draft.build ⟨t.tabulated.nodes⟩ = .ok t.tabulated :=
    Surface.Draft.build_eq_ok_iff.mpr ⟨h.sound_tabulated, rfl⟩
  rw [surface, TableOrigin.accept_tooShort_iff.mpr h.two_le, draft_eq_ok]
  simp only [bind, Except.bind, Except.mapError, hbuild]

end SaltTable

end ReservoirGas
