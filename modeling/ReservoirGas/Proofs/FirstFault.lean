import ReservoirGas.Proofs.Acceptance
import ReservoirGas.Proofs.Binary64

namespace ReservoirGas

open Outcome

section Cells

variable {α : Type}

def SaturatedRow.cells (family : Family) (r : SaturatedRow α) : List (Column × α) :=
  [(.pressure, r.pressure), (.volumeFactor, r.volumeFactor), (.viscosity, r.viscosity),
    (family.ratioColumn, r.ratio)]

def GasSample.cells (family : Family) (s : GasSample α) : List (Column × α) :=
  [(family.ratioColumn, s.ratio), (.volumeFactor, s.volumeFactor), (.viscosity, s.viscosity)]

end Cells

variable {α : Type} [Scalar α]

def Column.admits (column : Column) (x : α) : Bool :=
  match column with
  | .volumeFactor => Scalar.isPositive x
  | .viscosity => Scalar.isPositive x
  | _ => Scalar.isFinite x

/-- The first number that its column does not admit is `x` in `column`. -/
inductive FirstMisfit : List (Column × α) → Column → α → Prop
  | here {column : Column} {x : α} {r : List (Column × α)} (refused : column.admits x = false) :
    FirstMisfit ((column, x) :: r) column x
  | later {c : Column × α} {r : List (Column × α)} {column : Column} {x : α}
    (admitted : c.1.admits c.2 = true) (misfit : FirstMisfit r column x) : FirstMisfit (c :: r) column x

namespace TableOrigin

variable {o : TableOrigin} {e : PropertyError α}

def cellFaults (o : TableOrigin) (place : Column → Cell) (cells : List (Column × α)) :
    List (PropertyError α) :=
  cells.flatMap fun c ↦ faultUnless (c.1.admits c.2) (.nonPhysical o.table o.region (place c.1) c.2)

theorem head?_cellFaults_eq_some_iff {place : Column → Cell} {cells : List (Column × α)} :
    (o.cellFaults place cells).head? = some e ↔ ∃ column x, FirstMisfit cells column x ∧
      e = .nonPhysical o.table o.region (place column) x := by
  induction cells with
  | nil =>
    constructor
    · intro h
      cases h
    · intro h
      obtain ⟨column, x, hmisfit, -⟩ := h
      cases hmisfit
  | cons c r ih =>
    rw [cellFaults, List.flatMap_cons, head?_faultUnless_append_eq_some_iff]
    constructor
    · intro h
      rcases h with ⟨hrefused, rfl⟩ | ⟨hadmitted, hrest⟩
      · exact ⟨c.1, c.2, .here hrefused, rfl⟩
      · obtain ⟨column, x, hmisfit, he⟩ := ih.mp hrest
        exact ⟨column, x, .later hadmitted hmisfit, he⟩
    · intro h
      obtain ⟨column, x, hmisfit, he⟩ := h
      cases hmisfit with
      | here hrefused => exact .inl ⟨hrefused, he.symm⟩
      | later hadmitted hmisfit => exact .inr ⟨hadmitted, ih.mpr ⟨column, x, hmisfit, he⟩⟩

omit [Scalar α] in
theorem head?_tooShort_eq_some_iff {rows : Nat} : (o.tooShort rows).head? = some e ↔
    rows < minSaturatedRows ∧ e = .insufficientData o.table o.region rows := by
  rw [tooShort, head?_faultUnless_eq_some_iff, decide_eq_false_iff_not, not_le, eq_comm (a := e)]

omit [Scalar α] in
theorem head?_present_eq_some_iff {β : Type} {node : Nat} {branch : List β} :
    (o.present node branch).head? = some e ↔
      branch = [] ∧ e = .missingBranch o.table o.region node := by
  rw [present, head?_faultUnless_eq_some_iff, Bool.not_eq_false', List.isEmpty_iff, eq_comm (a := e)]

theorem head?_increasing_eq_some_iff [Scalar.Ordered α] {cell : Nat → Cell} {xs : List α}
    (h : Axis.Finite xs) : (o.increasing cell xs).head? = some e ↔
      ∃ row, Axis.FirstDrop xs row ∧ e = .nonMonotonic o.table o.region (cell row) := by
  rw [increasing, Axis.head?_firstNonIncreasing_eq_some_iff h]
  simp only [eq_comm (a := e)]

end TableOrigin

section Physical

variable {family : Family} {o : TableOrigin}

theorem GasTable.head?_rowFaults_eq_some_iff {e : PropertyError α} {row : Nat} {r : SaturatedRow α} :
    (rowFaults family o row r).head? = some e ↔ ∃ column x, FirstMisfit (r.cells family) column x ∧
      e = .nonPhysical o.table o.region (.saturated column row) x := by
  have hcells : rowFaults family o row r = o.cellFaults (.saturated · row) (r.cells family) := by
    cases family <;> simp [rowFaults, TableOrigin.cellFaults, SaturatedRow.cells, TableOrigin.finite,
      TableOrigin.positive, Column.admits, Family.ratioColumn]
  rw [hcells, TableOrigin.head?_cellFaults_eq_some_iff]

theorem GasTable.head?_sampleFaults_eq_some_iff {e : PropertyError α} {node row : Nat} {s : GasSample α} :
    (sampleFaults family o node row s).head? = some e ↔ ∃ column x, FirstMisfit (s.cells family) column x ∧
      e = .nonPhysical o.table o.region (.undersaturated column row node) x := by
  have hcells : sampleFaults family o node row s =
      o.cellFaults (.undersaturated · row node) (s.cells family) := by
    cases family <;> simp [sampleFaults, TableOrigin.cellFaults, GasSample.cells, TableOrigin.finite,
      TableOrigin.positive, Column.admits, Family.ratioColumn]
  rw [hcells, TableOrigin.head?_cellFaults_eq_some_iff]

end Physical

inductive GasSample.FirstFault (family : Family) (region : Region.Id) (node : Nat)
    (branch : List (GasSample α)) : PropertyError α → Prop
  | missing (empty : branch = []) :
    FirstFault family region node branch (.missingBranch family.keyword region node)
  | cell {row : Nat} {s : GasSample α} {column : Column} {x : α} (sample : branch[row]? = some s)
    (misfit : FirstMisfit (s.cells family) column x) (before : ∀ s' ∈ branch.take row, s'.Physical) :
    FirstFault family region node branch
      (.nonPhysical family.keyword region (.undersaturated column row node) x)
  | order {row : Nat} (samples : ∀ s ∈ branch, s.Physical)
    (drop : Axis.FirstDrop (branch.map GasSample.ratio) row) :
    FirstFault family region node branch
      (.nonMonotonic family.keyword region (.undersaturated family.ratioColumn row node))

namespace GasTable

/-- What is first found wrong with a table. -/
inductive FirstFault (family : Family) (region : Region.Id) (t : GasTable α) : PropertyError α → Prop
  | short (rows : t.saturated.length < minSaturatedRows) :
    FirstFault family region t (.insufficientData family.keyword region t.saturated.length)
  | cell {row : Nat} {r : SaturatedRow α} {column : Column} {x : α}
    (rows : minSaturatedRows ≤ t.saturated.length) (saturated : t.saturated[row]? = some r)
    (misfit : FirstMisfit (r.cells family) column x) (before : ∀ r' ∈ t.saturated.take row, r'.Physical) :
    FirstFault family region t (.nonPhysical family.keyword region (.saturated column row) x)
  | order {row : Nat} (rows : minSaturatedRows ≤ t.saturated.length)
    (saturated : ∀ r ∈ t.saturated, r.Physical) (drop : Axis.FirstDrop t.pressures row) :
    FirstFault family region t (.nonMonotonic family.keyword region (.saturated .pressure row))
  | branch {node : Nat} {e : PropertyError α} (rows : minSaturatedRows ≤ t.saturated.length)
    (saturated : ∀ r ∈ t.saturated, r.Physical) (pressures : Axis.Increasing t.pressures)
    (lt : node < t.saturated.length) (before : ∀ j < node, GasSample.PhysicalBranch (t.branch j))
    (fault : GasSample.FirstFault family region node (t.branch node) e) : FirstFault family region t e

variable [Scalar.Ordered α] {family : Family} {region : Region.Id} {e : PropertyError α}

theorem head?_branchFaults_eq_some_iff {node : Nat} {branch : List (GasSample α)} :
    (branchFaults family ⟨family.keyword, region⟩ node branch).head? = some e ↔
      GasSample.FirstFault family region node branch e := by
  simp only [branchFaults, head?_append_eq_some_iff, TableOrigin.head?_present_eq_some_iff,
    head?_flatMap_zipIdx_eq_some_iff sampleFaults_eq_nil_iff, List.append_eq_nil_iff,
    flatMap_zipIdx_eq_nil_iff sampleFaults_eq_nil_iff, TableOrigin.present_eq_nil_iff,
    head?_sampleFaults_eq_some_iff]
  constructor
  · intro h
    rcases h with (⟨hempty, rfl⟩ | ⟨hne, row, s, hs, ⟨column, x, hmisfit, rfl⟩, hbefore⟩) | ⟨⟨hne, hall⟩, h⟩
    · exact .missing hempty
    · exact .cell hs hmisfit hbefore
    · obtain ⟨row, hdrop, rfl⟩ := (TableOrigin.head?_increasing_eq_some_iff (finite_ratios hall)).mp h
      exact .order hall hdrop
  · intro h
    cases h with
    | missing hempty => exact .inl (.inl ⟨hempty, rfl⟩)
    | cell hs hmisfit hbefore =>
      have hne := List.ne_nil_of_mem (List.mem_of_getElem? hs)
      exact .inl (.inr ⟨hne, _, _, hs, ⟨_, _, hmisfit, rfl⟩, hbefore⟩)
    | order hall hdrop =>
      refine .inr ⟨⟨mt List.map_eq_nil_iff.mpr hdrop.ne_nil, hall⟩, ?_⟩
      exact (TableOrigin.head?_increasing_eq_some_iff (finite_ratios hall)).mpr ⟨_, hdrop, rfl⟩

theorem head?_faults_eq_some_iff {t : GasTable α} :
    (t.faults family region).head? = some e ↔ t.FirstFault family region e := by
  simp only [faults, head?_append_eq_some_iff, List.append_eq_nil_iff,
    TableOrigin.head?_tooShort_eq_some_iff, TableOrigin.tooShort_eq_nil_iff,
    head?_flatMap_zipIdx_eq_some_iff rowFaults_eq_nil_iff, flatMap_zipIdx_eq_nil_iff rowFaults_eq_nil_iff,
    head?_flatMap_range_eq_some_iff fun _ ↦ branchFaults_eq_nil_iff, head?_branchFaults_eq_some_iff,
    head?_rowFaults_eq_some_iff]
  constructor
  · intro h
    rcases h with ((⟨hshort, rfl⟩ | ⟨hrows, row, r, hr, ⟨column, x, hmisfit, rfl⟩, hbefore⟩) |
      ⟨⟨hrows, hall⟩, h⟩) | ⟨⟨⟨hrows, hall⟩, hpressures⟩, node, hlt, hfault, hbefore⟩
    · exact .short hshort
    · exact .cell hrows hr hmisfit hbefore
    · obtain ⟨row, hdrop, rfl⟩ := (TableOrigin.head?_increasing_eq_some_iff (finite_pressures hall)).mp h
      exact .order hrows hall hdrop
    · have hincreasing := (TableOrigin.increasing_eq_nil_iff (finite_pressures hall)).mp hpressures
      exact .branch hrows hall hincreasing hlt hbefore hfault
  · intro h
    cases h with
    | short hshort => exact .inl (.inl (.inl ⟨hshort, rfl⟩))
    | cell hrows hr hmisfit hbefore =>
      exact .inl (.inl (.inr ⟨hrows, _, _, hr, ⟨_, _, hmisfit, rfl⟩, hbefore⟩))
    | order hrows hall hdrop =>
      refine .inl (.inr ⟨⟨hrows, hall⟩, ?_⟩)
      exact (TableOrigin.head?_increasing_eq_some_iff (finite_pressures hall)).mpr ⟨_, hdrop, rfl⟩
    | branch hrows hall hpressures hlt hbefore hfault =>
      refine .inr ⟨⟨⟨hrows, hall⟩, ?_⟩, _, hlt, hfault, hbefore⟩
      exact (TableOrigin.increasing_eq_nil_iff (finite_pressures hall)).mpr hpressures

omit [Scalar.Ordered α] in
theorem physicalBranch_branch_iff {t : GasTable α} {i : Nat} :
    GasSample.PhysicalBranch (t.branch i) ↔
      ∃ samples, t.undersaturated[i]? = some samples ∧ GasSample.PhysicalBranch samples := by
  rw [GasTable.branch]
  cases t.undersaturated[i]? with
  | none =>
    constructor
    · intro h
      exact absurd rfl h.ne_nil
    · intro h
      obtain ⟨samples, hnone, -⟩ := h
      cases hnone
  | some samples => simp

/-- A gas table is accepted exactly if it has two rows, physical numbers in all of them along increasing
pressures, and for every row a branch of physical samples along an increasing ratio. It is refused with the
first thing that is wrong with it. -/
theorem check_outcome (family : Family) (region : Region.Id) (t : GasTable Float) :
    (t.check family region = .ok () ↔ minSaturatedRows ≤ t.saturated.length ∧
      (∀ r ∈ t.saturated, r.Physical) ∧ Axis.Increasing t.pressures ∧
      ∀ i < t.saturated.length, ∃ samples, t.undersaturated[i]? = some samples ∧
        GasSample.PhysicalBranch samples) ∧
    ∀ e, t.check family region = .error e ↔ t.FirstFault family region e := by
  refine ⟨?_, fun e ↦ ?_⟩
  · simp only [← physicalBranch_branch_iff]
    rw [check_eq_ok_iff]
    exact ⟨fun h ↦ ⟨h.two_le, h.row, h.increasing, h.branch⟩,
      fun ⟨hrows, hrow, hincreasing, hbranch⟩ ↦ ⟨hrows, hrow, hincreasing, hbranch⟩⟩
  · rw [check, accept_eq_error_iff, head?_faults_eq_some_iff]

end GasTable

end ReservoirGas
