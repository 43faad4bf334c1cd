import ReservoirGas.Model
import ReservoirGas.Proofs.Binary64
import ReservoirGas.Proofs.Deck
import ReservoirGas.Proofs.Jobs
import ReservoirGas.Proofs.Properties
import ReservoirGas.Proofs.Region

namespace ReservoirGas

open Outcome

variable {α : Type} [Scalar α]

namespace RegionProperties

theorem ofEntry_eq_ok_iff {e : Deck.Entry α} {r : RegionProperties α} :
    ofEntry e = .ok r ↔ (∀ family, GasProperties.ofTable family e.id (e.gasTable family) =
      .ok (r.gas family)) ∧ e.salt.mapM (SaltTable.surface e.id) = .ok r.salt ∧
      r.id = e.id ∧ r.densities = e.densities := by
  simp only [ofEntry, bind_eq_ok_iff, pure_eq_ok_iff]
  constructor
  · intro h
    obtain ⟨wet, hwet, humid, hhumid, salt, hsalt, rfl⟩ := h
    refine ⟨fun family ↦ ?_, hsalt, rfl, rfl⟩
    cases family
    · exact hwet
    · exact hhumid
  · intro h
    obtain ⟨hgas, hsalt, hid, hdensities⟩ := h
    exact ⟨r.wet, hgas .wet, r.humid, hgas .humid, r.salt, hsalt, by rw [← hid, ← hdensities]⟩

theorem isSome_salt_of_ofEntry {e : Deck.Entry α} {r : RegionProperties α} (h : ofEntry e = .ok r) :
    r.salt.isSome = e.salt.isSome := by
  obtain ⟨-, hsalt, -, -⟩ := ofEntry_eq_ok_iff.mp h
  rcases mapM_eq_ok_iff.mp hsalt with ⟨he, hr⟩ | ⟨t, s, he, -, hr⟩
  · rw [he, hr]
    rfl
  · rw [he, hr]
    rfl

end RegionProperties

omit [Scalar α] in
theorem Deck.getElem?_gasTables {d : Deck α} {i : Nat} {e : Entry α} (h : d.entries[i]? = some e)
    (family : Family) : (d.gasTables family)[i]? = some (e.gasTable family) := by
  obtain ⟨rho, wet, humid, -, hwet, hhumid, -, rfl⟩ := getElem?_entries_eq_some_iff.mp h
  cases family
  · exact hwet
  · exact hhumid

namespace Model

variable {order : List Nat} {options : BuildOptions} {control : VaporizationControl α} {d : Deck α}
  {m : Model α}

theorem buildIn_eq (h : ∀ i < d.regionCount, i ∈ order) :
    buildIn order options control d = d.check >>= fun _ ↦ Jobs.inTurn (jobs d) >>= fun regions ↦
      pure ⟨regions, control, d.hasSalt⟩ := by
  have hjobs : ∀ i < (jobs d).length, i ∈ order := by
    intro i hi
    rw [jobs, List.length_map] at hi
    exact h i (Nat.lt_of_lt_of_le hi d.length_entries_le)
  rw [buildIn, Jobs.sideBySide_eq_inTurn hjobs, ite_self]

theorem buildIn_eq_ok_iff (h : ∀ i < d.regionCount, i ∈ order) :
    buildIn order options control d = .ok m ↔
      d.check = .ok () ∧ Jobs.inTurn (jobs d) = .ok m.regions ∧ m.control = control ∧
      m.saltEnabled = d.hasSalt := by
  simp only [buildIn_eq h, bind_eq_ok_iff, pure_eq_ok_iff]
  constructor
  · intro h
    obtain ⟨_, hcheck, regions, hregions, rfl⟩ := h
    exact ⟨hcheck, hregions, rfl, rfl⟩
  · intro h
    obtain ⟨hcheck, hregions, rfl, hsalt⟩ := h
    exact ⟨(), hcheck, m.regions, hregions, by rw [← hsalt]⟩

theorem build_eq_ok_iff : build options control d = .ok m ↔
    d.check = .ok () ∧ Jobs.inTurn (jobs d) = .ok m.regions ∧ m.control = control ∧
    m.saltEnabled = d.hasSalt :=
  buildIn_eq_ok_iff fun _ hi ↦ List.mem_range.mpr hi

theorem length_regions_of_inTurn (hcounts : d.CountsAgree)
    (h : Jobs.inTurn (jobs d) = .ok m.regions) : m.regions.length = d.regionCount := by
  rw [← (Jobs.inTurn_eq_ok_iff.mp h).length_eq, jobs, List.length_map, hcounts.length_entries]

theorem exists_entry_of_inTurn (h : Jobs.inTurn (jobs d) = .ok m.regions) {i : Nat}
    {r : RegionProperties α} (hr : m.regions[i]? = some r) :
    ∃ e, d.entries[i]? = some e ∧ RegionProperties.ofEntry e = .ok r := by
  obtain ⟨job, hjob, hrun⟩ := Jobs.exists_job_of_inTurn h hr
  rw [jobs, List.getElem?_map] at hjob
  obtain ⟨e, he, rfl⟩ := Option.map_eq_some_iff.mp hjob
  exact ⟨e, he, hrun⟩

/-- `m` is what `control` and the deck `d` say, region by region. -/
structure Reflects (m : Model α) (control : VaporizationControl α) (d : Deck α) : Prop where
  control_eq : m.control = control
  length_regions : m.regions.length = d.regionCount
  toNat_id : d.regionCount < UInt32.size →
    ∀ (i : Nat) (r : RegionProperties α), m.regions[i]? = some r → r.id.toNat = i
  densities : m.regions.map RegionProperties.densities = d.densities
  saltEnabled_iff : m.saltEnabled = true ↔ d.salt ≠ []
  saltEnabled_iff_all : m.regions ≠ [] → (m.saltEnabled = true ↔ ∀ r ∈ m.regions, r.salt.isSome = true)
  tabulates : ∀ (i : Nat) (r : RegionProperties α) (family : Family), m.regions[i]? = some r →
    ∃ t, (d.gasTables family)[i]? = some t ∧ (r.gas family).Tabulates t

theorem isSome_salt_of_inTurn (hcounts : d.CountsAgree) (h : Jobs.inTurn (jobs d) = .ok m.regions)
    {r : RegionProperties α} (hr : r ∈ m.regions) : r.salt.isSome = d.hasSalt := by
  obtain ⟨i, hi⟩ := List.mem_iff_getElem?.mp hr
  obtain ⟨e, he, hofEntry⟩ := exists_entry_of_inTurn h hi
  obtain ⟨rho, wet, humid, hrho, -, -, -, rfl⟩ := Deck.getElem?_entries_eq_some_iff.mp he
  rw [RegionProperties.isSome_salt_of_ofEntry hofEntry]
  have hlt : i < d.regionCount := (List.getElem?_eq_some_iff.mp hrho).1
  -- a salt list that is not empty was checked to have a table for every region
  by_cases hsalt : d.salt = []
  · simp [Deck.hasSalt, hsalt]
  · rw [Deck.hasSalt_iff.mpr hsalt]
    have hlt' : i < d.salt.length := (hcounts.salt hsalt).symm ▸ hlt
    rw [List.getElem?_eq_getElem hlt', Option.isSome_some]

theorem toNat_id_of_inTurn (hcount : d.regionCount < UInt32.size)
    (h : Jobs.inTurn (jobs d) = .ok m.regions) {i : Nat} {r : RegionProperties α}
    (hr : m.regions[i]? = some r) : r.id.toNat = i := by
  obtain ⟨e, he, hofEntry⟩ := exists_entry_of_inTurn h hr
  obtain ⟨-, -, hid, -⟩ := RegionProperties.ofEntry_eq_ok_iff.mp hofEntry
  obtain ⟨rho, wet, humid, hrho, -, -, -, rfl⟩ := Deck.getElem?_entries_eq_some_iff.mp he
  have hlt : i < d.regionCount := (List.getElem?_eq_some_iff.mp hrho).1
  rw [hid, Region.Id.toNat_ofNat, Region.Id.maxIndex]
  omega

theorem densities_of_inTurn (hcounts : d.CountsAgree) (h : Jobs.inTurn (jobs d) = .ok m.regions) :
    m.regions.map RegionProperties.densities = d.densities := by
  apply List.ext_getElem?
  intro i
  rw [List.getElem?_map]
  cases hr : m.regions[i]? with
  | none =>
    rw [Option.map_none, eq_comm, List.getElem?_eq_none_iff]
    exact (length_regions_of_inTurn hcounts h).symm.trans_le (List.getElem?_eq_none_iff.mp hr)
  | some r =>
    obtain ⟨e, he, hofEntry⟩ := exists_entry_of_inTurn h hr
    obtain ⟨-, -, -, hdensities⟩ := RegionProperties.ofEntry_eq_ok_iff.mp hofEntry
    obtain ⟨rho, wet, humid, hrho, -, -, -, rfl⟩ := Deck.getElem?_entries_eq_some_iff.mp he
    rw [Option.map_some, hdensities, hrho]

theorem tabulates_of_inTurn [Scalar.Ordered α] (h : Jobs.inTurn (jobs d) = .ok m.regions) {i : Nat}
    {r : RegionProperties α} (hr : m.regions[i]? = some r) (family : Family) :
    ∃ t, (d.gasTables family)[i]? = some t ∧ (r.gas family).Tabulates t := by
  obtain ⟨e, he, hofEntry⟩ := exists_entry_of_inTurn h hr
  obtain ⟨hgas, -⟩ := RegionProperties.ofEntry_eq_ok_iff.mp hofEntry
  exact ⟨e.gasTable family, Deck.getElem?_gasTables he family,
    GasProperties.tabulates_of_ofTable (hgas family)⟩

/-- A model that is built at all reflects the control and the deck it was built from, for any numbers
in the deck and any lengths of its lists. -/
theorem reflects_of_build {options : BuildOptions} {control : VaporizationControl Float}
    {d : Deck Float} {m : Model Float} (h : build options control d = .ok m) :
    m.Reflects control d := by
  obtain ⟨hcheck, hregions, hcontrol, hsalt⟩ := build_eq_ok_iff.mp h
  obtain ⟨hcounts, -⟩ := Deck.check_eq_ok_iff.mp hcheck
  refine ⟨hcontrol, length_regions_of_inTurn hcounts hregions, ?_,
    densities_of_inTurn hcounts hregions, ?_, ?_, ?_⟩
  · intro hcount i r hr
    exact toNat_id_of_inTurn hcount hregions hr
  · rw [hsalt]
    exact Deck.hasSalt_iff
  · intro hne
    rw [hsalt]
    constructor
    · intro henabled r hr
      rw [isSome_salt_of_inTurn hcounts hregions hr, henabled]
    · intro hall
      obtain ⟨r, hr⟩ := List.exists_mem_of_ne_nil m.regions hne
      rw [← isSome_salt_of_inTurn hcounts hregions hr]
      exact hall r hr
  · intro i r family hr
    exact tabulates_of_inTurn hregions hr family

def oneRegion : Deck Float where
  densities := [⟨800, 1, 1000⟩]
  wet := [⟨[⟨1e6, 0.5, 1e-5, 0.1⟩, ⟨2e6, 0.25, 2e-5, 0.2⟩],
    [[⟨0.1, 0.5, 1e-5⟩], [⟨0.2, 0.25, 2e-5⟩, ⟨0.3, 0.24, 2.1e-5⟩]]⟩]
  humid := [⟨[⟨1e6, 0.5, 1e-5, 0.01⟩, ⟨2e6, 0.25, 2e-5, 0.02⟩],
    [[⟨0.01, 0.5, 1e-5⟩], [⟨0.02, 0.25, 2e-5⟩, ⟨0.03, 0.24, 2.1e-5⟩]]⟩]
  salt := [⟨[⟨1e6, 0.01⟩, ⟨2e6, 0.02⟩], [[⟨0, 0.01⟩, ⟨1, 0.005⟩], [⟨0, 0.02⟩]]⟩]

theorem reflects_oneRegion :
    ∃ m, build {} .inactive oneRegion = .ok m ∧ m.Reflects .inactive oneRegion := by
  have hok : (build {} .inactive oneRegion).isOk = true := by decide +kernel
  cases hm : build {} .inactive oneRegion with
  | ok m => exact ⟨m, rfl, reflects_of_build hm⟩
  | error e =>
    rw [hm] at hok
    cases hok

/-- Without regions every region has a salt table, and there is none. -/
theorem saltEnabled_noRegions : ∃ m : Model Float, build {} .inactive {} = .ok m ∧
    ¬ (m.saltEnabled = true ↔ ∀ r ∈ m.regions, r.salt.isSome = true) :=
  ⟨⟨[], .inactive, false⟩, rfl, fun h ↦ Bool.false_ne_true (h.mpr fun _ hr ↦ absurd hr List.not_mem_nil)⟩

end Model

end ReservoirGas
