import ReservoirGas.Project
import ReservoirGas.Proofs.Failure
import ReservoirGas.Proofs.Frozen

namespace ReservoirGas

open Outcome

namespace PropertyError

variable {α : Type}

/-- What is said about raw tables that are not accepted. -/
inductive OfCheck : PropertyError α → Prop
  | tableMismatch (left : Keyword) (leftCount : Nat) (right : Keyword) (rightCount : Nat) :
    OfCheck (.tableMismatch left leftCount right rightCount)
  | insufficientData (table : Keyword) (region : Region.Id) (rows : Nat) :
    OfCheck (.insufficientData table region rows)
  | missingBranch (table : Keyword) (region : Region.Id) (node : Nat) :
    OfCheck (.missingBranch table region node)
  | nonMonotonic (table : Keyword) (region : Region.Id) (cell : Cell) :
    OfCheck (.nonMonotonic table region cell)
  | nonPhysical (table : Keyword) (region : Region.Id) (cell : Cell) (value : α) :
    OfCheck (.nonPhysical table region cell value)

/-- What can still be said about raw tables that are accepted. -/
inductive OfConstruction [Scalar α] : PropertyError α → Prop
  | extrapolationImpossible (family : Family) (region : Region.Id) (node : Nat) :
    OfConstruction (.extrapolationImpossible family region node)
  | nonFiniteNumber (what : String) (value : α) (overflow : Scalar.isFinite value = false) :
    OfConstruction (.invalidNumber (.nonFinite what value))
  | nonFiniteTable (what : String) (index : Nat) :
    OfConstruction (.invalidTable (.nonFinite what index))
  | innerAxis (index : Nat) : OfConstruction (.invalidTable (.nonMonotonic "inner axis" index))

/-- Errors of the parts from which the construction is put together, never of what they are applied to. -/
inductive Internal : PropertyError α → Prop
  | invariant (what : String) : Internal (.invalidNumber (.invariant what))
  | invalidArgument (what : String) : Internal (.invalidNumber (.invalidArgument what))
  | emptyBranch (index : Nat) : Internal (.invalidTable (.emptyBranch index))
  | tooFewPoints (what : String) (count minimum : Nat) :
    Internal (.invalidTable (.tooFewPoints what count minimum))
  | lengthMismatch (what : String) (xCount yCount : Nat) :
    Internal (.invalidTable (.lengthMismatch what xCount yCount))
  | nodeOutOfRange (index count : Nat) : Internal (.invalidTable (.nodeOutOfRange index count))

theorem not_internal_of_check {e : PropertyError α} (h : e.OfCheck) : ¬ e.Internal := by
  cases h <;> exact fun h ↦ nomatch h

theorem not_internal_of_construction [Scalar α] {e : PropertyError α} (h : e.OfConstruction) : ¬ e.Internal := by
  cases h <;> exact fun h ↦ nomatch h

theorem isInputError_of_not_internal {e : PropertyError α} (h : ¬ e.Internal) : e.isInputError = true := by
  rw [← Bool.not_eq_false]
  intro hfalse
  unfold isInputError at hfalse
  split at hfalse
  · exact h (.invariant _)
  · cases hfalse

end PropertyError

variable {α : Type}

section Check

variable [Scalar α]

namespace TableOrigin

variable {o : TableOrigin} {e : PropertyError α}

omit [Scalar α] in
theorem ofCheck_of_mem_faultUnless {test : Bool} {e' : PropertyError α} (h : e ∈ faultUnless test e')
    (he' : e'.OfCheck) : e.OfCheck := by
  rw [faultUnless] at h
  split at h
  · cases h
  · cases List.mem_singleton.mp h
    exact he'

omit [Scalar α] in
theorem ofCheck_of_mem_tooShort {rows : Nat} (h : e ∈ o.tooShort rows) : e.OfCheck :=
  ofCheck_of_mem_faultUnless h (.insufficientData _ _ _)

theorem ofCheck_of_mem_finite {cell : Cell} {x : α} (h : e ∈ o.finite cell x) : e.OfCheck :=
  ofCheck_of_mem_faultUnless h (.nonPhysical _ _ _ _)

theorem ofCheck_of_mem_positive {cell : Cell} {x : α} (h : e ∈ o.positive cell x) : e.OfCheck :=
  ofCheck_of_mem_faultUnless h (.nonPhysical _ _ _ _)

omit [Scalar α] in
theorem ofCheck_of_mem_present {β : Type} {node : Nat} {branch : List β}
    (h : e ∈ o.present node branch) : e.OfCheck :=
  ofCheck_of_mem_faultUnless h (.missingBranch _ _ _)

theorem ofCheck_of_mem_increasing {cell : Nat → Cell} {xs : List α} (h : e ∈ o.increasing cell xs) :
    e.OfCheck := by
  rw [increasing, Option.mem_toList, Option.map_eq_some_iff] at h
  obtain ⟨row, -, rfl⟩ := h
  exact .nonMonotonic _ _ _

end TableOrigin

namespace GasTable

theorem ofCheck_of_mem_faults {family : Family} {region : Region.Id} {t : GasTable α}
    {e : PropertyError α} (h : e ∈ t.faults family region) : e.OfCheck := by
  simp only [faults, rowFaults, branchFaults, sampleFaults, List.mem_append, List.mem_flatMap] at h
  rcases h with ((hshort | ⟨_, -, ((hcell | hcell) | hcell) | hcell⟩) | hpressures) |
    ⟨_, -, (hpresent | ⟨_, -, (hcell | hcell) | hcell⟩) | hratios⟩
  · exact TableOrigin.ofCheck_of_mem_tooShort hshort
  · exact TableOrigin.ofCheck_of_mem_finite hcell
  · exact TableOrigin.ofCheck_of_mem_positive hcell
  · exact TableOrigin.ofCheck_of_mem_positive hcell
  · exact TableOrigin.ofCheck_of_mem_finite hcell
  · exact TableOrigin.ofCheck_of_mem_increasing hpressures
  · exact TableOrigin.ofCheck_of_mem_present hpresent
  · exact TableOrigin.ofCheck_of_mem_finite hcell
  · exact TableOrigin.ofCheck_of_mem_positive hcell
  · exact TableOrigin.ofCheck_of_mem_positive hcell
  · exact TableOrigin.ofCheck_of_mem_increasing hratios

end GasTable

namespace SaltTable

theorem ofCheck_of_mem_faults {region : Region.Id} {t : SaltTable α} {e : PropertyError α}
    (h : e ∈ t.faults region) : e.OfCheck := by
  simp only [faults, branchFaults, List.mem_append, List.mem_flatMap] at h
  rcases h with ((hshort | ⟨_, -, hcell⟩) | hpressures) |
    ⟨_, -, (hpresent | ⟨_, -, hcell | hcell⟩) | hconcentrations⟩
  · exact TableOrigin.ofCheck_of_mem_tooShort hshort
  · exact TableOrigin.ofCheck_of_mem_finite hcell
  · exact TableOrigin.ofCheck_of_mem_increasing hpressures
  · exact TableOrigin.ofCheck_of_mem_present hpresent
  · exact TableOrigin.ofCheck_of_mem_finite hcell
  · exact TableOrigin.ofCheck_of_mem_finite hcell
  · exact TableOrigin.ofCheck_of_mem_increasing hconcentrations

end SaltTable

namespace Deck

theorem ofCheck_of_mem_entry_faults {entry : Entry α} {e : PropertyError α} (h : e ∈ entry.faults) :
    e.OfCheck := by
  rw [Entry.faults, List.mem_append, List.mem_flatMap] at h
  rcases h with ⟨family, -, hgas⟩ | hsalt
  · exact GasTable.ofCheck_of_mem_faults hgas
  · cases hentry : entry.salt with
    | none =>
      rw [hentry] at hsalt
      cases hsalt
    | some t =>
      rw [hentry] at hsalt
      exact SaltTable.ofCheck_of_mem_faults hsalt

theorem ofCheck_of_check {d : Deck α} {e : PropertyError α} (h : d.check = .error e) : e.OfCheck := by
  rcases check_eq_error_iff.mp h with hcount | ⟨-, _, entry, -, hhead, -⟩
  · cases hcount <;> exact .tableMismatch _ _ _ _
  · exact ofCheck_of_mem_entry_faults (List.mem_of_mem_head? hhead)

end Deck

end Check

section Construction

variable [Scalar α]

namespace GasSample

variable {last prev next : GasSample α} {current master : List (GasSample α)} {e : NumericError α}

theorem follow_error (h : follow last prev next = .error e) :
    ∃ what x, Scalar.isFinite x = false ∧ e = .nonFinite what x := by
  simp only [follow, bind_eq_error_iff, ensureFinite_eq_error_iff, pure_ne_error, and_false, exists_false,
    or_false] at h
  rcases h with ⟨hx, rfl⟩ | ⟨_, -, ⟨hx, rfl⟩ | ⟨_, -, hx, rfl⟩⟩ <;> exact ⟨_, _, hx, rfl⟩

theorem followAll_error (h : followAll last master = .error e) :
    ∃ what x, Scalar.isFinite x = false ∧ e = .nonFinite what x := by
  induction master generalizing last with
  | nil => cases h
  | cons prev r ih =>
    cases r with
    | nil => cases h
    | cons next r =>
      rw [followAll, bind_eq_error_iff] at h
      rcases h with hstep | ⟨s, -, hrest⟩
      · exact follow_error hstep
      · rcases bind_eq_error_iff.mp hrest with hrest | ⟨_, -, hpure⟩
        · exact ih hrest
        · cases hpure

theorem prolong_error (hne : current ≠ []) (h : prolong current master = .error e) :
    ∃ what x, Scalar.isFinite x = false ∧ e = .nonFinite what x := by
  rw [prolong] at h
  split at h
  · rename_i hnone
    exact absurd (List.getLast?_eq_none_iff.mp hnone) hne
  · exact followAll_error h

end GasSample

theorem BranchSet.complete_error {family : Family} {region : Region.Id} {raw : BranchSet α}
    {e : PropertyError α} (hne : ∀ i < raw.size, raw.branch i ≠ [])
    (h : raw.complete family region = .error e) : e.OfConstruction := by
  rcases complete_cases family region raw with ⟨c, hc, -⟩ | ⟨e', he, i, hi, hfault, -⟩
  · rw [h] at hc
    cases hc
  · rw [h] at he
    cases he
    cases hfault with
    | noMaster => exact .extrapolationImpossible _ _ _
    | noProlongation _ _ hfailed =>
      obtain ⟨what, x, hx, rfl⟩ := GasSample.prolong_error (hne i hi) hfailed
      exact .nonFiniteNumber what x hx

variable [Scalar.Ordered α]

/-- Along good pressures, nodes with samples make both surfaces unless a sample is not finite or the ratios
of a branch do not increase. -/
theorem BranchSet.freeze_error {s : BranchSet α} {e : TableError} (hne : s.nodes ≠ [])
    (hfinite : Axis.Finite s.pressures) (hincreasing : Axis.Increasing s.pressures)
    (hbranch : ∀ i < s.size, s.branch i ≠ []) (h : s.freeze = .error e) :
    (PropertyError.invalidTable e : PropertyError α).OfConstruction := by
  have hxs : Surface.Draft.xs ⟨(s.surface inverseVolumeFactor).nodes⟩ = s.pressures := xs_surface _ s
  rw [← hxs] at hfinite hincreasing
  cases freeze_eq_error_iff_firstFault.mp h with
  | viscosity => exact .nonFiniteTable _ _
  | inverse hinverse =>
    cases hinverse with
    | noNodes hnodes => exact absurd (List.map_eq_nil_iff.mp hnodes) hne
    | position hfirst => exact absurd hfinite hfirst.not_finite
    | order _ hdrop => exact absurd hincreasing hdrop.not_increasing
    | @node i n _ _ _ hn _ hfault =>
      cases hfault with
      | empty hempty =>
        obtain ⟨hi, hbranch'⟩ := branch_of_getElem?_surface hn
        rw [hbranch', List.map_eq_nil_iff] at hempty
        exact absurd hempty (hbranch i hi)
      | sample => exact .nonFiniteTable _ _
      | order => exact .innerAxis _

theorem GasProperties.ofTable_error {family : Family} {region : Region.Id} {t : GasTable α}
    {e : PropertyError α} (ht : t.Accepted) (h : ofTable family region t = .error e) :
    e.OfConstruction := by
  have hbranch : ∀ i < (BranchSet.ofTable t).size, (BranchSet.ofTable t).branch i ≠ [] := by
    intro i hi
    rw [BranchSet.size_ofTable] at hi
    rw [BranchSet.branch_ofTable hi]
    exact (ht.branch i hi).ne_nil
  rw [ofTable, TableOrigin.accept_tooShort_iff.mpr ht.two_le, seq_eq_error_iff] at h
  simp only [reduceCtorEq, false_or, true_and, bind_eq_error_iff, mapError_eq_error_iff, pure_ne_error,
    and_false, exists_false, or_false, mapError_eq_ok_iff] at h
  rcases h with ⟨e', hsaturated, rfl⟩ | ⟨_, -, hcomplete | ⟨c, hc, e', hfreeze, rfl⟩⟩
  · obtain ⟨i, -, rfl⟩ := (SaturatedCurves.ofTable_eq_error_iff ht).mp hsaturated
    exact .nonFiniteTable _ _
  · exact BranchSet.complete_error hbranch hcomplete
  · obtain ⟨hraw, hcompletes⟩ := BranchSet.completes_of_complete hc
    have hpressures : c.branches.pressures = t.pressures :=
      hcompletes.pressures.trans (BranchSet.pressures_ofTable t)
    have hsize := hcompletes.size_eq
    have htwo : 2 ≤ t.saturated.length := ht.two_le
    refine BranchSet.freeze_error ?_ ?_ ?_ (fun i hi hnil ↦ ?_) hfreeze
    · apply List.ne_nil_of_length_pos
      change 0 < c.branches.size
      rw [hsize, BranchSet.size_ofTable]
      omega
    · rw [hpressures]
      exact finite_pressures ht.row
    · rw [hpressures]
      exact ht.increasing
    · have htwo' := hcompletes.two_le hraw (hsize ▸ hi)
      rw [BranchSet.branchSize, hnil] at htwo'
      cases htwo'

theorem Deck.Stage.ofConstruction_of_outcome {d : Deck α} {p : Place} {e : PropertyError α}
    (hcheck : check.outcome d p = .ok ()) (h : construction.outcome d p = .error e) :
    e.OfConstruction := by
  obtain ⟨i, part⟩ := p
  cases part with
  | gas family =>
    rw [outcome_gas] at hcheck h
    cases ht : (d.gasTables family)[i]? with
    | none =>
      rw [ht] at h
      cases h
    | some t =>
      rw [ht] at hcheck h
      exact GasProperties.ofTable_error (GasTable.check_eq_ok_iff.mp hcheck) (discard_eq_error_iff.mp h)
  | salt =>
    rw [outcome_salt] at hcheck h
    cases ht : d.salt[i]? with
    | none =>
      rw [ht] at h
      cases h
    | some t =>
      rw [ht] at hcheck h
      have hsurface : t.surface (.ofNat i) = .ok t.tabulated :=
        (SaltTable.check_eq_ok_iff.mp hcheck).surface_eq_ok
      have hsalt := discard_eq_error_iff.mp h
      rw [hsurface] at hsalt
      cases hsalt

theorem Model.ofConstruction_of_build {options : BuildOptions} {control : VaporizationControl α}
    {d : Deck α} {e : PropertyError α} (hcheck : d.check = .ok ())
    (h : build options control d = .error e) : e.OfConstruction := by
  obtain ⟨-, hplaces⟩ := Deck.check_eq_ok_iff_outcome.mp hcheck
  rcases build_eq_error_iff.mp h with he | ⟨-, p, hp, -⟩
  · rw [hcheck] at he
    cases he
  · exact Deck.Stage.ofConstruction_of_outcome (hplaces p) hp

end Construction

namespace Project

variable {p : Project} {e : ProjectError}

theorem build_of_check_error (h : p.check = .error e) : p.build = .error e := by
  rw [check, seq_eq_error_iff] at h
  rw [build, seq_eq_error_iff]
  rcases h with hversion | ⟨hversion, hdeck⟩
  · exact .inl hversion
  · obtain ⟨cause, hcause, rfl⟩ := mapError_eq_error_iff.mp hdeck
    exact .inr ⟨hversion, mapError_eq_error_iff.mpr ⟨cause, Model.build_eq_error_iff.mpr (.inl hcause), rfl⟩⟩

theorem check_eq_ok_iff : p.check = .ok () ↔ p.checkVersion = .ok () ∧ p.deck.check = .ok () := by
  rw [check, seq_eq_ok_iff, mapError_eq_ok_iff]

theorem build_error_cases (h : p.build = .error e) :
    p.check = .error e ∨
      p.check = .ok () ∧ ∃ cause, e = .property cause ∧ cause.OfConstruction := by
  rw [build, seq_eq_error_iff] at h
  rcases h with hversion | ⟨hversion, hbuild⟩
  · rw [check, seq_eq_error_iff]
    exact .inl (.inl hversion)
  · obtain ⟨cause, hcause, rfl⟩ := mapError_eq_error_iff.mp hbuild
    rcases Model.build_eq_error_iff.mp hcause with hdeck | ⟨hdeck, -⟩
    · rw [check, seq_eq_error_iff]
      exact .inl (.inr ⟨hversion, mapError_eq_error_iff.mpr ⟨cause, hdeck, rfl⟩⟩)
    · exact .inr ⟨check_eq_ok_iff.mpr ⟨hversion, hdeck⟩, cause, rfl, Model.ofConstruction_of_build hdeck hcause⟩

theorem ofCheck_of_check {cause : PropertyError Float} (h : p.check = .error (.property cause)) :
    cause.OfCheck := by
  rw [check, seq_eq_error_iff] at h
  rcases h with hversion | ⟨-, hdeck⟩
  · rw [checkVersion] at hversion
    split at hversion <;> cases hversion
  · obtain ⟨cause', hcause, he⟩ := mapError_eq_error_iff.mp hdeck
    cases he
    exact Deck.ofCheck_of_check hcause

/-- A project that is refused by its check is refused by the build in the same words. A project that is
accepted is built, or its construction meets one of four errors. In no case is an internal error met, and
once the numbers of tables agree every position that a check or a build looks up exists. -/
theorem build_outcome (p : Project) :
    (∀ e, p.check = .error e → p.build = .error e) ∧
    (p.check = .ok () →
      (∃ m, p.build = .ok m) ∨ ∃ cause, p.build = .error (.property cause) ∧ cause.OfConstruction) ∧
    (∀ cause, p.build = .error (.property cause) → ¬ cause.Internal ∧ cause.isInputError = true) ∧
    (∀ e, p.deck.checkCounts = .error e → p.deck.check = .error e) ∧
    (p.deck.checkCounts = .ok () →
      (List.range p.deck.regionCount).map p.deck.lookup = p.deck.entries.map some) := by
  refine ⟨fun e ↦ build_of_check_error, fun hcheck ↦ ?_, fun cause hbuild ↦ ?_, fun e hcounts ↦ ?_,
    fun hcounts ↦ ?_⟩
  · cases hbuild : p.build with
    | ok m => exact .inl ⟨m, rfl⟩
    | error e =>
      rcases build_error_cases hbuild with herror | ⟨-, cause, rfl, hcause⟩
      · rw [hcheck] at herror
        cases herror
      · exact .inr ⟨cause, rfl, hcause⟩
  · have hinternal : ¬ cause.Internal := by
      rcases build_error_cases hbuild with herror | ⟨-, _, hcause, h⟩
      · exact PropertyError.not_internal_of_check (ofCheck_of_check herror)
      · cases hcause
        exact PropertyError.not_internal_of_construction h
    exact ⟨hinternal, PropertyError.isInputError_of_not_internal hinternal⟩
  · rw [Deck.checkCounts, accept_eq_error_iff] at hcounts
    rw [Deck.check, accept_eq_error_iff, Deck.faults, List.head?_append, hcounts]
    rfl
  · rw [Deck.checkCounts, accept_unit_eq_ok_iff, Deck.countFaults_eq_nil_iff] at hcounts
    exact Deck.map_lookup_eq hcounts

end Project

end ReservoirGas
