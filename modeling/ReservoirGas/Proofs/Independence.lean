import ReservoirGas.Proofs.Binary64
import ReservoirGas.Proofs.Failure
import Mathlib.Data.List.Perm.Basic

namespace ReservoirGas

open Outcome

variable {α : Type} [Scalar α]

section Transfer

variable {family family' : Family} {region region' : Region.Id}

theorem foldlM_eq_ok_of_step {ε β ι : Type} {f g : β → ι → Except ε β}
    (h : ∀ b i b', f b i = .ok b' → g b i = .ok b') {items : List ι} {b c : β}
    (hf : items.foldlM f b = .ok c) : items.foldlM g b = .ok c := by
  induction items generalizing b with
  | nil => exact hf
  | cons i items ih =>
    rw [List.foldlM_cons, bind_eq_ok_iff] at hf ⊢
    obtain ⟨b', hstep, hrest⟩ := hf
    exact ⟨b', h b i b' hstep, ih hrest⟩

theorem BranchSet.complete_transfer {raw : BranchSet α} {c : Completed α}
    (h : raw.complete family region = .ok c) : raw.complete family' region' = .ok c := by
  refine foldlM_eq_ok_of_step (fun done i done' hstep ↦ ?_) h
  exact completeNode_eq_ok_iff.mpr (completeNode_eq_ok_iff.mp hstep)

theorem GasProperties.ofTable_transfer {t : GasTable α} {g : GasProperties α}
    (h : ofTable family region t = .ok g) :
    ofTable family' region' t = .ok { g with family := family' } := by
  obtain ⟨c, hlength, hsaturated, hcomplete, hfreeze, -, hextensions⟩ := ofTable_eq_ok_iff.mp h
  exact ofTable_eq_ok_iff.mpr
    ⟨c, hlength, hsaturated, BranchSet.complete_transfer hcomplete, hfreeze, rfl, hextensions⟩

theorem GasProperties.family_of_ofTable {t : GasTable α} {g : GasProperties α}
    (h : ofTable family region t = .ok g) : g.family = family := by
  obtain ⟨c, -, -, -, -, hfamily, -⟩ := ofTable_eq_ok_iff.mp h
  exact hfamily

omit [Scalar α] in
theorem GasProperties.with_family_eq_self {g : GasProperties α} (h : g.family = family) :
    { g with family := family } = g := by
  subst h
  rfl

theorem SaltTable.surface_transfer {t : SaltTable α} {s : Surface α} (h : t.surface region = .ok s) :
    t.surface region' = .ok s := by
  rw [surface, seq_eq_ok_iff, TableOrigin.accept_tooShort_iff] at h ⊢
  exact h

end Transfer

namespace Deck

def pick {β : Type} (positions : List Nat) (xs : List β) : List β :=
  positions.filterMap (xs[·]?)

def rearrange (positions : List Nat) (d : Deck α) : Deck α where
  densities := pick positions d.densities
  wet := pick positions d.wet
  humid := pick positions d.humid
  salt := pick positions d.salt

section Pick

variable {β : Type} {positions : List Nat} {xs : List β}

theorem mem_of_mem_pick {x : β} (h : x ∈ pick positions xs) : x ∈ xs := by
  obtain ⟨k, -, hk⟩ := List.mem_filterMap.mp h
  exact List.mem_of_getElem? hk

theorem getElem?_pick (h : ∀ k ∈ positions, k < xs.length) (i : Nat) :
    (pick positions xs)[i]? = positions[i]?.bind (xs[·]?) := by
  rw [pick]
  induction positions generalizing i with
  | nil => rfl
  | cons k positions ih =>
    obtain ⟨hk, hrest⟩ := List.forall_mem_cons.mp h
    rw [List.filterMap_cons_some (List.getElem?_eq_getElem hk)]
    cases i with
    | zero => simp [List.getElem?_eq_getElem hk]
    | succ i => exact ih hrest i

theorem length_pick (h : ∀ k ∈ positions, k < xs.length) : (pick positions xs).length = positions.length := by
  rw [pick, List.filterMap_length_eq_length]
  intro k hk
  rw [List.getElem?_eq_getElem (h k hk), Option.isSome_some]

end Pick

variable {d d' : Deck α} {positions : List Nat}

omit [Scalar α] in
theorem lt_of_perm (h : positions.Perm (List.range d.regionCount)) :
    ∀ k ∈ positions, k < d.regionCount :=
  fun _ hk ↦ List.mem_range.mp (h.mem_iff.mp hk)

omit [Scalar α] in
theorem regionCount_rearrange (h : positions.Perm (List.range d.regionCount)) :
    (d.rearrange positions).regionCount = d.regionCount := by
  rw [regionCount, rearrange, length_pick (lt_of_perm h), h.length_eq, List.length_range]

omit [Scalar α] in
theorem CountsAgree.rearrange (hcounts : d.CountsAgree) (h : positions.Perm (List.range d.regionCount)) :
    (d.rearrange positions).CountsAgree := by
  have hpick {β : Type} {xs : List β} (hxs : xs.length = d.regionCount) :
      (pick positions xs).length = (d.rearrange positions).regionCount := by
    have hlt : ∀ k ∈ positions, k < xs.length := fun k hk ↦ hxs ▸ lt_of_perm h k hk
    rw [length_pick hlt, regionCount_rearrange h, h.length_eq, List.length_range]
  refine ⟨hpick hcounts.wet, hpick hcounts.humid, fun hsalt ↦ hpick (hcounts.salt fun hnil ↦ hsalt ?_)⟩
  rw [Deck.rearrange, hnil, pick]
  exact List.filterMap_eq_nil_iff.mpr fun _ _ ↦ List.getElem?_nil

omit [Scalar α] in
theorem getElem?_gasTables_rearrange (hcounts : d.CountsAgree)
    (h : positions.Perm (List.range d.regionCount)) {i j : Nat} (hi : positions[i]? = some j)
    (family : Family) :
    ((d.rearrange positions).gasTables family)[i]? = (d.gasTables family)[j]? := by
  have hlength : (d.gasTables family).length = d.regionCount := by
    cases family
    · exact hcounts.wet
    · exact hcounts.humid
  have hpick : (d.rearrange positions).gasTables family = pick positions (d.gasTables family) := by
    cases family <;> rfl
  rw [hpick, getElem?_pick (hlength ▸ lt_of_perm h), hi, Option.bind_some]

omit [Scalar α] in
theorem getElem?_salt_rearrange (hcounts : d.CountsAgree)
    (h : positions.Perm (List.range d.regionCount)) {i j : Nat} (hi : positions[i]? = some j) :
    (d.rearrange positions).salt[i]? = d.salt[j]? := by
  by_cases hsalt : d.salt = []
  · have hnil : (d.rearrange positions).salt = [] := by
      rw [Deck.rearrange, hsalt, pick]
      exact List.filterMap_eq_nil_iff.mpr fun _ _ ↦ List.getElem?_nil
    rw [hnil, hsalt, List.getElem?_nil, List.getElem?_nil]
  · rw [Deck.rearrange, getElem?_pick (hcounts.salt hsalt ▸ lt_of_perm h), hi, Option.bind_some]

/-- Whether a table passes the stage has nothing to do with its region. -/
structure Stage.RegionFree (s : Stage α) : Prop where
  gas : ∀ family region region' t, s.gas family region t = .ok () → s.gas family region' t = .ok ()
  salt : ∀ region region' t, s.salt region t = .ok () → s.salt region' t = .ok ()

theorem Stage.regionFree_check [Scalar.Ordered α] : (check : Stage α).RegionFree where
  gas _ _ _ _ h := GasTable.check_eq_ok_iff.mpr (GasTable.check_eq_ok_iff.mp h)
  salt _ _ _ h := SaltTable.check_eq_ok_iff.mpr (SaltTable.check_eq_ok_iff.mp h)

theorem Stage.regionFree_construction : (construction : Stage α).RegionFree where
  gas _ _ _ _ h := by
    obtain ⟨g, hg⟩ := discard_eq_ok_iff.mp h
    exact discard_eq_ok_iff.mpr ⟨_, GasProperties.ofTable_transfer hg⟩
  salt _ _ _ h := by
    obtain ⟨s, hs⟩ := discard_eq_ok_iff.mp h
    exact discard_eq_ok_iff.mpr ⟨s, SaltTable.surface_transfer hs⟩

omit [Scalar α] in
theorem Stage.RegionFree.outcome {s : Stage α} (hs : s.RegionFree)
    (hgas : ∀ family, ∀ t ∈ d'.gasTables family, t ∈ d.gasTables family)
    (hsalt : ∀ t ∈ d'.salt, t ∈ d.salt) (h : ∀ p, s.outcome d p = .ok ()) (p : Place) :
    s.outcome d' p = .ok () := by
  obtain ⟨i, part⟩ := p
  cases part with
  | gas family =>
    rw [outcome_gas]
    cases ht : (d'.gasTables family)[i]? with
    | none => rfl
    | some t =>
      obtain ⟨j, hj⟩ := List.mem_iff_getElem?.mp (hgas family t (List.mem_of_getElem? ht))
      have hpass := h ⟨j, .gas family⟩
      rw [outcome_gas, hj] at hpass
      exact hs.gas _ _ _ t hpass
  | salt =>
    rw [outcome_salt]
    cases ht : d'.salt[i]? with
    | none => rfl
    | some t =>
      obtain ⟨j, hj⟩ := List.mem_iff_getElem?.mp (hsalt t (List.mem_of_getElem? ht))
      have hpass := h ⟨j, .salt⟩
      rw [outcome_salt, hj] at hpass
      exact hs.salt _ _ t hpass

end Deck

omit [Scalar α] in
theorem RegionProperties.eq_of_parts {r s : RegionProperties α} (hid : r.id = s.id)
    (hdensities : r.densities = s.densities) (hgas : ∀ family, r.gas family = s.gas family)
    (hsalt : r.salt = s.salt) : r = s := by
  have hwet : r.wet = s.wet := hgas .wet
  have hhumid : r.humid = s.humid := hgas .humid
  cases r
  simp only at hid hdensities hwet hhumid hsalt
  rw [hid, hdensities, hwet, hhumid, hsalt]

namespace Model

variable {d d' : Deck α} {m m' : Model α}

/-- `m` is built from `d`, with any control and options and in any order of the jobs that leaves out no
region. -/
def BuiltFrom (m : Model α) (d : Deck α) : Prop :=
  ∃ order options control, (∀ i < d.regionCount, i ∈ order) ∧ buildIn order options control d = .ok m

theorem builtFrom_of_build {options : BuildOptions} {control : VaporizationControl α}
    (h : build options control d = .ok m) : m.BuiltFrom d :=
  ⟨List.range d.regionCount, options, control, fun _ hi ↦ List.mem_range.mpr hi, h⟩

theorem builtFrom_iff : m.BuiltFrom d ↔
    d.check = .ok () ∧ Jobs.inTurn (jobs d) = .ok m.regions ∧ m.saltEnabled = d.hasSalt := by
  constructor
  · intro h
    obtain ⟨order, options, control, horder, hbuild⟩ := h
    obtain ⟨hcheck, hregions, -, hsalt⟩ := (buildIn_eq_ok_iff horder).mp hbuild
    exact ⟨hcheck, hregions, hsalt⟩
  · intro h
    obtain ⟨hcheck, hregions, hsalt⟩ := h
    have hbuild : build {} m.control d = .ok m := build_eq_ok_iff.mpr ⟨hcheck, hregions, rfl, hsalt⟩
    exact builtFrom_of_build hbuild

namespace BuiltFrom

variable {i j : Nat} {r s : RegionProperties α}

theorem countsAgree (h : m.BuiltFrom d) : d.CountsAgree :=
  (Deck.check_eq_ok_iff.mp (builtFrom_iff.mp h).1).1

theorem length_regions (h : m.BuiltFrom d) : m.regions.length = d.regionCount :=
  length_regions_of_inTurn h.countsAgree (builtFrom_iff.mp h).2.1

theorem exists_entry (h : m.BuiltFrom d) (hr : m.regions[i]? = some r) :
    d.densities[i]? = some r.densities ∧
    (∀ family, ∃ t, (d.gasTables family)[i]? = some t ∧
      GasProperties.ofTable family (.ofNat i) t = .ok (r.gas family)) ∧
    d.salt[i]?.mapM (SaltTable.surface (.ofNat i)) = .ok r.salt ∧ r.id = .ofNat i := by
  obtain ⟨e, he, hofEntry⟩ := exists_entry_of_inTurn (builtFrom_iff.mp h).2.1 hr
  obtain ⟨hgas, hsalt, hid, hdensities⟩ := RegionProperties.ofEntry_eq_ok_iff.mp hofEntry
  have htables := Deck.getElem?_gasTables he
  obtain ⟨rho, wet, humid, hrho, -, -, -, rfl⟩ := Deck.getElem?_entries_eq_some_iff.mp he
  exact ⟨hdensities ▸ hrho, fun family ↦ ⟨_, htables family, hgas family⟩, hsalt, hid⟩

theorem gas_eq (h : m.BuiltFrom d) (h' : m'.BuiltFrom d') (hr : m.regions[i]? = some r)
    (hs : m'.regions[j]? = some s) {family family' : Family}
    (ht : (d.gasTables family)[i]? = (d'.gasTables family')[j]?) :
    r.gas family = { s.gas family' with family := family } := by
  obtain ⟨-, hgas, -⟩ := h.exists_entry hr
  obtain ⟨-, hgas', -⟩ := h'.exists_entry hs
  obtain ⟨t, htable, hbuilt⟩ := hgas family
  obtain ⟨t', htable', hbuilt'⟩ := hgas' family'
  rw [ht, htable', Option.some.injEq] at htable
  subst htable
  rw [GasProperties.ofTable_transfer hbuilt'] at hbuilt
  exact (Except.ok.inj hbuilt).symm

theorem gas_eq_of_table (h : m.BuiltFrom d) (h' : m'.BuiltFrom d') (hr : m.regions[i]? = some r)
    (hs : m'.regions[j]? = some s) {family : Family}
    (ht : (d.gasTables family)[i]? = (d'.gasTables family)[j]?) : r.gas family = s.gas family := by
  obtain ⟨-, hgas, -⟩ := h'.exists_entry hs
  obtain ⟨t, -, hbuilt⟩ := hgas family
  rw [h.gas_eq h' hr hs ht]
  exact GasProperties.with_family_eq_self (GasProperties.family_of_ofTable hbuilt)

theorem salt_eq (h : m.BuiltFrom d) (h' : m'.BuiltFrom d') (hr : m.regions[i]? = some r)
    (hs : m'.regions[j]? = some s) (ht : d.salt[i]? = d'.salt[j]?) : r.salt = s.salt := by
  obtain ⟨-, -, hsalt, -⟩ := h.exists_entry hr
  obtain ⟨-, -, hsalt', -⟩ := h'.exists_entry hs
  rw [← ht] at hsalt'
  rcases mapM_eq_ok_iff.mp hsalt with ⟨hnone, hr⟩ | ⟨t, surface, hsome, hsurface, hr⟩
  · rcases mapM_eq_ok_iff.mp hsalt' with ⟨-, hs⟩ | ⟨t', surface', hsome', -, -⟩
    · rw [hr, hs]
    · rw [hnone] at hsome'
      cases hsome'
  · rcases mapM_eq_ok_iff.mp hsalt' with ⟨hnone', -⟩ | ⟨t', surface', hsome', hsurface', hs⟩
    · rw [hsome] at hnone'
      cases hnone'
    · rw [hsome, Option.some.injEq] at hsome'
      subst hsome'
      rw [SaltTable.surface_transfer hsurface, Except.ok.injEq] at hsurface'
      rw [hr, hs, hsurface']

theorem region_eq (h : m.BuiltFrom d) (h' : m'.BuiltFrom d') (hr : m.regions[i]? = some r)
    (hs : m'.regions[j]? = some s) (hdensities : d.densities[i]? = d'.densities[j]?)
    (hgas : ∀ family, (d.gasTables family)[i]? = (d'.gasTables family)[j]?)
    (hsalt : d.salt[i]? = d'.salt[j]?) : r = { s with id := r.id } := by
  have hrho : r.densities = s.densities := by
    rw [(h.exists_entry hr).1, (h'.exists_entry hs).1] at hdensities
    exact Option.some.inj hdensities
  have hsaltTable : r.salt = s.salt := h.salt_eq h' hr hs hsalt
  refine RegionProperties.eq_of_parts rfl hrho (fun family ↦ ?_) hsaltTable
  refine (h.gas_eq_of_table h' hr hs (hgas family)).trans ?_
  cases family <;> rfl

end BuiltFrom

theorem BuiltFrom.exists_build [Scalar.Ordered α] (h : m.BuiltFrom d) (hcounts : d'.CountsAgree)
    (hgas : ∀ family, ∀ t ∈ d'.gasTables family, t ∈ d.gasTables family)
    (hsalt : ∀ t ∈ d'.salt, t ∈ d.salt) (options : BuildOptions) (control : VaporizationControl α) :
    ∃ m', build options control d' = .ok m' := by
  obtain ⟨hcheck, hregions, hsaltEnabled⟩ := builtFrom_iff.mp h
  obtain ⟨-, hchecks⟩ := Deck.check_eq_ok_iff_outcome.mp hcheck
  have hcheck' : d'.check = .ok () :=
    Deck.check_eq_ok_iff_outcome.mpr ⟨hcounts, Deck.Stage.regionFree_check.outcome hgas hsalt hchecks⟩
  have hbuild : build {} m.control d = .ok m :=
    build_eq_ok_iff.mpr ⟨hcheck, hregions, rfl, hsaltEnabled⟩
  exact (exists_build_iff hcheck').mpr
    (Deck.Stage.regionFree_construction.outcome hgas hsalt ((exists_build_iff hcheck).mp ⟨m, hbuild⟩))

theorem BuiltFrom.rearrange [Scalar.Ordered α] (h : m.BuiltFrom d) {positions : List Nat}
    (hperm : positions.Perm (List.range d.regionCount)) (options : BuildOptions)
    (control : VaporizationControl α) :
    ∃ m', build options control (d.rearrange positions) = .ok m' ∧
      m'.regions = (Deck.pick positions m.regions).zipIdx.map fun p ↦ { p.1 with id := .ofNat p.2 } := by
  have hcounts := h.countsAgree
  have hgas : ∀ family, ∀ t ∈ (d.rearrange positions).gasTables family, t ∈ d.gasTables family := by
    intro family t ht
    cases family <;> exact Deck.mem_of_mem_pick ht
  obtain ⟨m', hbuild⟩ := h.exists_build (hcounts.rearrange hperm) hgas (fun _ ↦ Deck.mem_of_mem_pick)
    options control
  have h' : m'.BuiltFrom (d.rearrange positions) := builtFrom_of_build hbuild
  have hlt : ∀ j ∈ positions, j < m.regions.length := h.length_regions ▸ Deck.lt_of_perm hperm
  refine ⟨m', hbuild, List.ext_getElem? fun i ↦ ?_⟩
  rw [List.getElem?_map, List.getElem?_zipIdx, Deck.getElem?_pick hlt]
  cases hi : positions[i]? with
  | none =>
    have hle : m'.regions.length ≤ i := by
      rw [h'.length_regions, Deck.regionCount_rearrange hperm]
      rw [List.getElem?_eq_none_iff, hperm.length_eq, List.length_range] at hi
      exact hi
    simp [List.getElem?_eq_none hle]
  | some j =>
    have hj := hlt j (List.mem_of_getElem? hi)
    have hi' : i < m'.regions.length := by
      rw [h'.length_regions, Deck.regionCount_rearrange hperm, ← List.length_range (n := d.regionCount),
        ← hperm.length_eq]
      exact (List.getElem?_eq_some_iff.mp hi).1
    have hr : m'.regions[i]? = some m'.regions[i] := List.getElem?_eq_getElem hi'
    have hs : m.regions[j]? = some m.regions[j] := List.getElem?_eq_getElem hj
    have hdensities : (d.rearrange positions).densities[i]? = d.densities[j]? := by
      rw [Deck.rearrange, Deck.getElem?_pick (Deck.lt_of_perm hperm), hi, Option.bind_some]
    have hregion := h'.region_eq h hr hs hdensities (Deck.getElem?_gasTables_rearrange hcounts hperm hi)
      (Deck.getElem?_salt_rearrange hcounts hperm hi)
    obtain ⟨-, -, -, hid⟩ := h'.exists_entry hr
    rw [hr, Option.bind_some, hs, hregion, hid]
    simp

theorem BuiltFrom.withoutSalt [Scalar.Ordered α] (h : m.BuiltFrom d) (options : BuildOptions)
    (control : VaporizationControl α) :
    ∃ m', build options control { d with salt := [] } = .ok m' ∧
      m'.regions = m.regions.map fun r ↦ { r with salt := none } := by
  have hcounts : Deck.CountsAgree { d with salt := [] } :=
    ⟨h.countsAgree.wet, h.countsAgree.humid, fun hne ↦ absurd rfl hne⟩
  have hgas : ∀ family, ∀ t ∈ Deck.gasTables { d with salt := [] } family, t ∈ d.gasTables family := by
    intro family t ht
    cases family <;> exact ht
  obtain ⟨m', hbuild⟩ := h.exists_build hcounts hgas (fun _ ht ↦ absurd ht List.not_mem_nil)
    options control
  have h' : m'.BuiltFrom { d with salt := [] } := builtFrom_of_build hbuild
  refine ⟨m', hbuild, List.ext_getElem? fun i ↦ ?_⟩
  have hlength : m'.regions.length = m.regions.length := h'.length_regions.trans h.length_regions.symm
  rw [List.getElem?_map]
  cases hs : m.regions[i]? with
  | none =>
    rw [Option.map_none, List.getElem?_eq_none_iff, hlength]
    exact List.getElem?_eq_none_iff.mp hs
  | some s =>
    have hi : i < m'.regions.length := by
      rw [hlength]
      exact (List.getElem?_eq_some_iff.mp hs).1
    have hr : m'.regions[i]? = some m'.regions[i] := List.getElem?_eq_getElem hi
    obtain ⟨hrho, -, -, hid⟩ := h.exists_entry hs
    obtain ⟨hrho', -, hsalt', hid'⟩ := h'.exists_entry hr
    rw [hrho, Option.some.injEq] at hrho'
    rw [hr, Option.map_some, Option.some.injEq]
    refine RegionProperties.eq_of_parts (hid'.trans hid.symm) hrho'.symm (fun family ↦ ?_)
      (Except.ok.inj hsalt').symm
    have hgas_eq : m'.regions[i].gas family = s.gas family := by
      apply h'.gas_eq_of_table h hr hs
      cases family <;> rfl
    refine hgas_eq.trans ?_
    cases family <;> rfl

/-- Two models agree wherever their decks do. The tables of a gas family are the same if the raw tables are,
and regions with the same densities and tables are the same but for their numbers. So a deck in another
order gives the model in that order, and with or without salt tables the gas tables are the same. -/
theorem regions_agree {a c : Deck Float} {m k : Model Float} (hm : m.BuiltFrom a) (hk : k.BuiltFrom c) :
    (∀ (i j : Nat) (r s : RegionProperties Float), m.regions[i]? = some r → k.regions[j]? = some s →
      (∀ family, (a.gasTables family)[i]? = (c.gasTables family)[j]? → r.gas family = s.gas family) ∧
      (∀ family family', (a.gasTables family)[i]? = (c.gasTables family')[j]? →
        r.gas family = { s.gas family' with family := family }) ∧
      (a.densities[i]? = c.densities[j]? →
        (∀ family, (a.gasTables family)[i]? = (c.gasTables family)[j]?) → a.salt[i]? = c.salt[j]? →
        r = { s with id := r.id })) ∧
    (∀ positions options control, positions.Perm (List.range a.regionCount) →
      ∃ m', build options control (a.rearrange positions) = .ok m' ∧
        m'.regions = (Deck.pick positions m.regions).zipIdx.map fun p ↦ { p.1 with id := .ofNat p.2 }) ∧
    (∀ options control, ∃ m', build options control { a with salt := [] } = .ok m' ∧
      m'.regions = m.regions.map fun r ↦ { r with salt := none }) ∧
    (∀ salt, c = { a with salt := salt } → ∀ family,
      m.regions.map (RegionProperties.gas · family) = k.regions.map (RegionProperties.gas · family)) := by
  refine ⟨fun i j r s hr hs ↦ ⟨fun family ht ↦ ?_, fun family family' ht ↦ ?_, fun hrho ht hsalt ↦ ?_⟩,
    fun positions options control hperm ↦ hm.rearrange hperm options control, hm.withoutSalt,
    fun salt hsalt family ↦ ?_⟩
  · exact hm.gas_eq_of_table hk hr hs ht
  · exact hm.gas_eq hk hr hs ht
  · exact hm.region_eq hk hr hs hrho ht hsalt
  · subst hsalt
    have hlength : m.regions.length = k.regions.length := hm.length_regions.trans hk.length_regions.symm
    refine List.ext_getElem (by simpa using hlength) fun i hi hi' ↦ ?_
    rw [List.getElem_map, List.getElem_map]
    rw [List.length_map] at hi hi'
    apply hm.gas_eq_of_table hk (List.getElem?_eq_getElem hi) (List.getElem?_eq_getElem hi')
    cases family <;> rfl

def crossed : Deck Float where
  densities := [⟨1, 2, 3⟩, ⟨800, 1, 1000⟩]
  wet := oneRegion.humid ++ oneRegion.wet
  humid := oneRegion.wet ++ oneRegion.humid
  salt := oneRegion.salt ++ oneRegion.salt

theorem regions_crossed : ∃ m k, build ⟨true⟩ .inactive crossed = .ok m ∧
    build {} ⟨1⟩ oneRegion = .ok k ∧ ∀ r s t, m.regions = [r, s] → k.regions = [t] →
      s = { t with id := s.id } ∧ r.wet = { t.humid with family := .wet } ∧
      r.humid = { t.wet with family := .humid } := by
  have hcrossed : (build ⟨true⟩ .inactive crossed).isOk = true := by decide +kernel
  have hsingle : (build {} ⟨1⟩ oneRegion).isOk = true := by decide +kernel
  cases hm : build ⟨true⟩ .inactive crossed with
  | error e =>
    rw [hm] at hcrossed
    cases hcrossed
  | ok m =>
    cases hk : build {} ⟨1⟩ oneRegion with
    | error e =>
      rw [hk] at hsingle
      cases hsingle
    | ok k =>
      refine ⟨m, k, rfl, rfl, fun r s t hregions hregion ↦ ?_⟩
      have hrho : crossed.densities[1]? = oneRegion.densities[0]? := by decide +kernel
      have hgas : ∀ family ∈ Family.all,
          (crossed.gasTables family)[1]? = (oneRegion.gasTables family)[0]? := by decide +kernel
      have hsalt : crossed.salt[1]? = oneRegion.salt[0]? := by decide +kernel
      have hwet : (crossed.gasTables .wet)[0]? = (oneRegion.gasTables .humid)[0]? := by decide +kernel
      have hhumid : (crossed.gasTables .humid)[0]? = (oneRegion.gasTables .wet)[0]? := by decide +kernel
      obtain ⟨hagree, -⟩ := regions_agree (builtFrom_of_build hm) (builtFrom_of_build hk)
      rw [hregions, hregion] at hagree
      obtain ⟨-, hcross, -⟩ := hagree 0 0 r t rfl rfl
      obtain ⟨-, -, hsame⟩ := hagree 1 0 s t rfl rfl
      refine ⟨hsame hrho (fun family ↦ hgas family ?_) hsalt, hcross .wet .humid hwet, hcross .humid .wet hhumid⟩
      cases family <;> decide

end Model

end ReservoirGas
