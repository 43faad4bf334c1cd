import ReservoirGas.Proofs.Model
import Mathlib.Data.Nat.Find

namespace ReservoirGas

open Outcome

variable {α : Type} [Scalar α]

namespace Deck

inductive Part
  | gas (family : Family)
  | salt

def Part.rank : Part → Nat
  | gas .wet => 0
  | gas .humid => 1
  | salt => 2

structure Place where
  region : Nat
  part : Part

def Place.Before (p q : Place) : Prop :=
  p.region < q.region ∨ p.region = q.region ∧ p.part.rank < q.part.rank

/-- Work on single raw tables that can fail. -/
structure Stage (α : Type) where
  gas : Family → Region.Id → GasTable α → Except (PropertyError α) Unit
  salt : Region.Id → SaltTable α → Except (PropertyError α) Unit

namespace Stage

def check : Stage α :=
  ⟨GasTable.check, SaltTable.check⟩

def construction : Stage α where
  gas family region t := discard (GasProperties.ofTable family region t)
  salt region t := discard (t.surface region)

variable {s : Stage α} {d : Deck α} {i : Nat} {e : PropertyError α}

omit [Scalar α]

def outcome (s : Stage α) (d : Deck α) (p : Place) : Except (PropertyError α) Unit :=
  match p.part with
  | .gas family => (d.gasTables family)[p.region]?.elim (.ok ()) (s.gas family (.ofNat p.region))
  | .salt => d.salt[p.region]?.elim (.ok ()) (s.salt (.ofNat p.region))

theorem outcome_gas (family : Family) : s.outcome d ⟨i, .gas family⟩ =
    (d.gasTables family)[i]?.elim (.ok ()) (s.gas family (.ofNat i)) := rfl

theorem outcome_salt : s.outcome d ⟨i, .salt⟩ = d.salt[i]?.elim (.ok ()) (s.salt (.ofNat i)) := rfl

def FirstFailure (s : Stage α) (d : Deck α) (e : PropertyError α) : Prop :=
  ∃ p, s.outcome d p = .error e ∧ ∀ q, q.Before p → s.outcome d q = .ok ()

def region (s : Stage α) (d : Deck α) (i : Nat) : Except (PropertyError α) Unit := do
  s.outcome d ⟨i, .gas .wet⟩
  s.outcome d ⟨i, .gas .humid⟩
  s.outcome d ⟨i, .salt⟩

def entry (s : Stage α) (e : Entry α) : Except (PropertyError α) Unit := do
  s.gas .wet e.id e.wet
  s.gas .humid e.id e.humid
  e.salt.elim (.ok ()) (s.salt e.id)

theorem region_eq_ok_iff : s.region d i = .ok () ↔ ∀ part, s.outcome d ⟨i, part⟩ = .ok () := by
  simp only [region, seq_eq_ok_iff]
  constructor
  · intro h part
    obtain ⟨hwet, hhumid, hsalt⟩ := h
    match part with
    | .gas .wet => exact hwet
    | .gas .humid => exact hhumid
    | .salt => exact hsalt
  · intro h
    exact ⟨h _, h _, h _⟩

theorem region_eq_error_iff : s.region d i = .error e ↔ ∃ part, s.outcome d ⟨i, part⟩ = .error e ∧
    ∀ part' : Part, part'.rank < part.rank → s.outcome d ⟨i, part'⟩ = .ok () := by
  simp only [region, seq_eq_error_iff]
  constructor
  · intro h
    rcases h with hwet | ⟨hwet, hhumid | ⟨hhumid, hsalt⟩⟩
    · exact ⟨_, hwet, fun part' h ↦ absurd h (Nat.not_lt_zero _)⟩
    · refine ⟨_, hhumid, fun part' h ↦ ?_⟩
      match part' with
      | .gas .wet => exact hwet
      | .gas .humid => exact absurd h (Nat.lt_irrefl _)
      | .salt => exact absurd h (by decide)
    · refine ⟨_, hsalt, fun part' h ↦ ?_⟩
      match part' with
      | .gas .wet => exact hwet
      | .gas .humid => exact hhumid
      | .salt => exact absurd h (Nat.lt_irrefl _)
  · intro h
    obtain ⟨part, he, hbefore⟩ := h
    match part with
    | .gas .wet => exact .inl he
    | .gas .humid => exact .inr ⟨hbefore (.gas .wet) (by decide), .inl he⟩
    | .salt =>
      exact .inr ⟨hbefore (.gas .wet) (by decide), .inr ⟨hbefore (.gas .humid) (by decide), he⟩⟩

theorem firstFailure_iff : s.FirstFailure d e ↔
    ∃ i, s.region d i = .error e ∧ ∀ j < i, s.region d j = .ok () := by
  simp only [region_eq_ok_iff, region_eq_error_iff]
  constructor
  · intro h
    obtain ⟨⟨i, part⟩, he, hbefore⟩ := h
    refine ⟨i, ⟨part, he, fun part' hrank ↦ ?_⟩, fun j hj part' ↦ ?_⟩
    · exact hbefore ⟨i, part'⟩ (.inr ⟨rfl, hrank⟩)
    · exact hbefore ⟨j, part'⟩ (.inl hj)
  · intro h
    obtain ⟨i, ⟨part, he, hwithin⟩, hregions⟩ := h
    refine ⟨⟨i, part⟩, he, fun q hq ↦ ?_⟩
    obtain ⟨j, part'⟩ := q
    rcases hq with hj | ⟨rfl, hrank⟩
    · exact hregions j hj part'
    · exact hwithin part' hrank

theorem forall_outcome_or (s : Stage α) (d : Deck α) :
    (∀ p, s.outcome d p = .ok ()) ∨ ∃ e, s.FirstFailure d e := by
  by_cases h : ∀ i, s.region d i = .ok ()
  · exact .inl fun p ↦ region_eq_ok_iff.mp (h p.region) p.part
  · have hex : ∃ i, s.region d i ≠ .ok () := not_forall.mp h
    classical
    cases he : s.region d (Nat.find hex) with
    | ok u => exact absurd he (Nat.find_spec hex)
    | error e =>
      refine .inr ⟨e, firstFailure_iff.mpr ⟨Nat.find hex, he, fun j hj ↦ ?_⟩⟩
      exact not_not.mp (Nat.find_min hex hj)

theorem region_of_entry {entry : Entry α} (h : d.entries[i]? = some entry) :
    s.region d i = s.entry entry := by
  obtain ⟨rho, wet, humid, -, hwet, hhumid, -, rfl⟩ := getElem?_entries_eq_some_iff.mp h
  simp only [region, outcome_gas, outcome_salt, gasTables, hwet, hhumid, Option.elim_some, Stage.entry]

theorem region_of_no_entry (hcounts : d.CountsAgree) (h : d.entries[i]? = none) :
    s.region d i = .ok () := by
  rw [List.getElem?_eq_none_iff, hcounts.length_entries] at h
  have hwet : d.wet[i]? = none := List.getElem?_eq_none (hcounts.wet.trans_le h)
  have hhumid : d.humid[i]? = none := List.getElem?_eq_none (hcounts.humid.trans_le h)
  have hsalt : d.salt[i]? = none := by
    by_cases hne : d.salt = []
    · rw [hne, List.getElem?_nil]
    · exact List.getElem?_eq_none ((hcounts.salt hne).trans_le h)
  simp only [region, outcome_gas, outcome_salt, gasTables, hwet, hhumid, hsalt, Option.elim_none]
  rfl

theorem forall_outcome_iff (hcounts : d.CountsAgree) :
    (∀ p, s.outcome d p = .ok ()) ↔ ∀ entry ∈ d.entries, s.entry entry = .ok () := by
  constructor
  · intro h entry hentry
    obtain ⟨i, hi⟩ := List.mem_iff_getElem?.mp hentry
    rw [← region_of_entry hi, region_eq_ok_iff]
    exact fun part ↦ h ⟨i, part⟩
  · intro h p
    obtain ⟨i, part⟩ := p
    refine region_eq_ok_iff.mp ?_ part
    cases hi : d.entries[i]? with
    | none => exact region_of_no_entry hcounts hi
    | some entry =>
      rw [region_of_entry hi]
      exact h entry (List.mem_of_getElem? hi)

theorem firstFailure_iff_entry (hcounts : d.CountsAgree) : s.FirstFailure d e ↔
    ∃ (i : Nat) (entry : Entry α), d.entries[i]? = some entry ∧ s.entry entry = .error e ∧
      ∀ j < i, ∀ entry', d.entries[j]? = some entry' → s.entry entry' = .ok () := by
  rw [firstFailure_iff]
  constructor
  · intro h
    obtain ⟨i, he, hbefore⟩ := h
    cases hi : d.entries[i]? with
    | none =>
      rw [region_of_no_entry hcounts hi] at he
      cases he
    | some entry =>
      rw [region_of_entry hi] at he
      refine ⟨i, entry, hi, he, fun j hj entry' hj' ↦ ?_⟩
      rw [← region_of_entry hj']
      exact hbefore j hj
  · intro h
    obtain ⟨i, entry, hi, he, hbefore⟩ := h
    rw [← region_of_entry hi] at he
    refine ⟨i, he, fun j hj ↦ ?_⟩
    cases hj' : d.entries[j]? with
    | none => exact region_of_no_entry hcounts hj'
    | some entry' =>
      rw [region_of_entry hj']
      exact hbefore j hj entry' hj'

theorem entry_check [Scalar α] (entry : Entry α) :
    check.entry entry = accept entry.faults () := by
  have hfaults : entry.faults = entry.wet.faults .wet entry.id ++ (entry.humid.faults .humid entry.id ++
      (entry.salt.map fun t ↦ t.faults entry.id).getD []) := by
    simp [Entry.faults, Family.all, Entry.gasTable]
  rw [hfaults, accept_append, accept_append, Stage.entry]
  cases entry.salt <;> rfl

theorem entry_construction [Scalar α] (entry : Entry α) :
    construction.entry entry = discard (RegionProperties.ofEntry entry) := by
  simp only [Stage.entry, construction, RegionProperties.ofEntry]
  cases GasProperties.ofTable .wet entry.id entry.wet with
  | error e => rfl
  | ok wet =>
    cases GasProperties.ofTable .humid entry.id entry.humid with
    | error e => rfl
    | ok humid =>
      cases entry.salt with
      | none => rfl
      | some t => cases hsalt : t.surface entry.id <;> simp [hsalt] <;> rfl

end Stage

theorem check_eq_ok_iff_outcome {d : Deck α} :
    d.check = .ok () ↔ d.CountsAgree ∧ ∀ p, Stage.check.outcome d p = .ok () := by
  rw [check_eq_ok_iff]
  refine and_congr_right fun hcounts ↦ ?_
  simp only [Stage.forall_outcome_iff hcounts, Stage.entry_check, accept_unit_eq_ok_iff]

theorem accepted_of_check [Scalar.Ordered α] {d : Deck α} (h : d.check = .ok ()) {i : Nat} {family : Family}
    {t : GasTable α} (ht : (d.gasTables family)[i]? = some t) : t.Accepted := by
  obtain ⟨-, hchecks⟩ := check_eq_ok_iff_outcome.mp h
  have hcheck := hchecks ⟨i, .gas family⟩
  rw [Stage.outcome_gas, ht] at hcheck
  exact GasTable.check_eq_ok_iff.mp hcheck

theorem accepted_salt_of_check [Scalar.Ordered α] {d : Deck α} (h : d.check = .ok ()) {i : Nat}
    {t : SaltTable α} (ht : d.salt[i]? = some t) : t.Accepted := by
  obtain ⟨-, hchecks⟩ := check_eq_ok_iff_outcome.mp h
  have hcheck := hchecks ⟨i, .salt⟩
  rw [Stage.outcome_salt, ht] at hcheck
  exact SaltTable.check_eq_ok_iff.mp hcheck

theorem check_eq_error_iff_firstFailure {d : Deck α} {e : PropertyError α} :
    d.check = .error e ↔ d.CountFault e ∨ d.CountsAgree ∧ Stage.check.FirstFailure d e := by
  rw [check_eq_error_iff]
  refine or_congr_right (and_congr_right fun hcounts ↦ ?_)
  simp only [Stage.firstFailure_iff_entry hcounts, Stage.entry_check, accept_unit_eq_ok_iff,
    accept_eq_error_iff]

end Deck

namespace Model

variable {order : List Nat} {options : BuildOptions} {control : VaporizationControl α} {d : Deck α}
  {e : PropertyError α}

theorem inTurn_jobs_eq_error_iff (hcounts : d.CountsAgree) :
    Jobs.inTurn (jobs d) = .error e ↔ Deck.Stage.construction.FirstFailure d e := by
  simp only [Jobs.inTurn_eq_error_iff, jobs, List.getElem?_map, Option.map_eq_some_iff,
    Deck.Stage.firstFailure_iff_entry hcounts, Deck.Stage.entry_construction, discard_eq_ok_iff,
    discard_eq_error_iff]
  constructor
  · intro h
    obtain ⟨i, _, ⟨entry, hi, rfl⟩, he, hbefore⟩ := h
    exact ⟨i, entry, hi, he, fun j hj entry' hj' ↦ hbefore j hj _ ⟨entry', hj', rfl⟩⟩
  · intro h
    obtain ⟨i, entry, hi, he, hbefore⟩ := h
    refine ⟨i, _, ⟨entry, hi, rfl⟩, he, fun j hj job hjob ↦ ?_⟩
    obtain ⟨entry', hj', rfl⟩ := hjob
    exact hbefore j hj entry' hj'

/-- A build fails with the check of the deck or with the first failure of all constructions. -/
theorem buildIn_eq_error_iff (h : ∀ i < d.regionCount, i ∈ order) :
    buildIn order options control d = .error e ↔
      d.check = .error e ∨ d.check = .ok () ∧ Deck.Stage.construction.FirstFailure d e := by
  rw [buildIn_eq h, seq_eq_error_iff]
  refine or_congr_right (and_congr_right fun hcheck ↦ ?_)
  obtain ⟨hcounts, -⟩ := Deck.check_eq_ok_iff.mp hcheck
  simp only [bind_eq_error_iff, pure_ne_error, and_false, exists_false, or_false,
    inTurn_jobs_eq_error_iff hcounts]

theorem build_eq_error_iff : build options control d = .error e ↔
    d.check = .error e ∨ d.check = .ok () ∧ Deck.Stage.construction.FirstFailure d e :=
  buildIn_eq_error_iff fun _ hi ↦ List.mem_range.mpr hi

theorem exists_build_iff (h : d.check = .ok ()) :
    (∃ m, build options control d = .ok m) ↔ ∀ p, Deck.Stage.construction.outcome d p = .ok () := by
  constructor
  · intro hm
    obtain ⟨m, hm⟩ := hm
    rcases Deck.Stage.construction.forall_outcome_or d with hall | ⟨e, he⟩
    · exact hall
    · rw [build_eq_error_iff.mpr (.inr ⟨h, he⟩)] at hm
      cases hm
  · intro hall
    cases hbuild : build options control d with
    | ok m => exact ⟨m, rfl⟩
    | error e =>
      rcases build_eq_error_iff.mp hbuild with he | ⟨-, p, hp, -⟩
      · rw [h] at he
        cases he
      · rw [hall p] at hp
        cases hp

/-- In whatever order the jobs of the regions finish side by side, the outcome is that of running them in
turn. A failure is a difference of numbers, the first there is; with no such difference it is the first
failure of all checks, and without one the first failure of all constructions. -/
theorem buildIn_outcome (h : order.Perm (List.range d.regionCount)) (control : VaporizationControl α) :
    buildIn order ⟨true⟩ control d = build ⟨false⟩ control d ∧
    ∀ e, build ⟨false⟩ control d = .error e ↔
      d.CountFault e ∨
      d.CountsAgree ∧ Deck.Stage.check.FirstFailure d e ∨
      d.CountsAgree ∧ (∀ p, Deck.Stage.check.outcome d p = .ok ()) ∧
        Deck.Stage.construction.FirstFailure d e := by
  have hrange : ∀ i < d.regionCount, i ∈ List.range d.regionCount := fun _ ↦ List.mem_range.mpr
  have horder : ∀ i < d.regionCount, i ∈ order := fun i hi ↦ h.mem_iff.mpr (hrange i hi)
  constructor
  · rw [build, buildIn_eq horder, buildIn_eq hrange]
  · intro e
    rw [build_eq_error_iff, Deck.check_eq_error_iff_firstFailure, Deck.check_eq_ok_iff_outcome,
      or_assoc, and_assoc]

def twoRegions : Deck Float where
  densities := [⟨800, 1, 1000⟩, ⟨800, 1, 1000⟩]
  wet := [⟨[⟨1e6, 0.5, 1e-5, 0.1⟩, ⟨2e6, 0.25, 2e-5, 0.2⟩], [[⟨0.1, 0.5, 1e-5⟩], [⟨0.2, 0.25, 2e-5⟩]]⟩, ⟨[], []⟩]
  humid := [⟨[⟨1e6, 0.5, 1e-5, 0.1⟩, ⟨2e6, 0.25, 2e-5, 0.2⟩], [[⟨0.1, 0.5, 1e-5⟩], [⟨0.2, 0.25, 2e-5⟩]]⟩, ⟨[], []⟩]

theorem buildIn_twoRegions : buildIn [1, 0] ⟨true⟩ .inactive twoRegions =
    .error (.insufficientData .pvtg (.ofNat 1) 0) := by
  obtain ⟨heq, -⟩ := @buildIn_outcome Float _ [1, 0] twoRegions (by decide) .inactive
  rw [heq]
  decide +kernel

def noSalt : Deck Float where
  densities := [⟨800, 1, 1000⟩]
  wet := [⟨[], []⟩]
  humid := [⟨[], []⟩]

/-- That there are fewer salt tables than regions is no fault where there are none. -/
theorem error_noSalt : noSalt.salt.length ≠ noSalt.regionCount ∧
    build ⟨false⟩ .inactive noSalt = .error (.insufficientData .pvtg (.ofNat 0) 0) :=
  ⟨by decide, rfl⟩

end Model

end ReservoirGas
