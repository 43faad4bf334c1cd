import ReservoirGas.Proofs.Failure
import ReservoirGas.Proofs.Prolongation

namespace ReservoirGas

open Outcome Exact

def GasTable.lastBranch {α : Type} (t : GasTable α) : List (GasSample α) :=
  t.branch (t.saturated.length - 1)

def Deck.Completable {α : Type} (d : Deck α) : Prop :=
  ∀ (i : Nat) (family : Family) (t : GasTable α), (d.gasTables family)[i]? = some t →
    2 ≤ t.lastBranch.length

/-- From node `s` on, and from no node before, a table has single samples up to its last node. -/
structure GasTable.SingleFrom {α : Type} (t : GasTable α) (s : Nat) : Prop where
  lt : s < t.saturated.length
  single : ∀ j, s ≤ j → j < t.saturated.length → (t.branch j).length = 1
  first : ∀ j, j + 1 = s → (t.branch j).length ≠ 1

/-- The table of `family` of region `i` is the first that ends with a single sample, and its single samples
up to the last node start at node `s`. -/
structure Deck.FirstSingle {α : Type} (d : Deck α) (i : Nat) (family : Family) (s : Nat) : Prop where
  table : ∃ t, (d.gasTables family)[i]? = some t ∧ t.lastBranch.length = 1 ∧ t.SingleFrom s
  before : ∀ j family' t, Place.Before ⟨j, .gas family'⟩ ⟨i, .gas family⟩ →
    (d.gasTables family')[j]? = some t → t.lastBranch.length ≠ 1

theorem SaturatedCurves.ofTable_eq_ok {t : GasTable Exact} (h : t.Accepted) :
    ofTable t = .ok (ofColumns t) := by
  refine ofTable_eq_ok_iff.mpr ⟨⟨h.two_le, finite_pressures h.row, h.increasing⟩, ?_, rfl⟩
  · have hrow (r : SaturatedRow Exact) (hr : r.Physical) (value : SaturatedRow Exact → Exact)
        (hvalue : value ∈ columns) : Scalar.isFinite (value r) = true := by
      obtain ⟨b, hb, hfactor⟩ := isPositive_iff.mp hr.volumeFactor
      obtain ⟨v, hv, hviscosity⟩ := isPositive_iff.mp hr.viscosity
      simp only [columns, List.mem_cons, List.not_mem_nil, or_false] at hvalue
      rcases hvalue with rfl | rfl | rfl | rfl
      · exact isFinite_of_isPositive hr.volumeFactor
      · change Scalar.isFinite (Scalar.one / r.volumeFactor) = true
        rw [hfactor, one_eq, number_div _ hb.ne']
        rfl
      · change Scalar.isFinite (Scalar.one / (r.viscosity * r.volumeFactor)) = true
        rw [hfactor, hviscosity, number_mul, one_eq, number_div _ (mul_pos hv hb).ne']
        rfl
      · exact hr.ratio
    intro value hvalue
    exact List.forall_mem_map.mpr fun r hr ↦ hrow r (h.row r hr) value hvalue

variable {α : Type} [Scalar α]

namespace BranchSet

theorem sound_surface {s : BranchSet α} {value : GasSample α → α} (hne : s.nodes ≠ [])
    (hfinite : Axis.Finite s.pressures) (hincreasing : Axis.Increasing s.pressures)
    (hbranch : ∀ i < s.size, GasSample.PhysicalBranch (s.branch i))
    (hvalue : ∀ x : GasSample α, x.Physical → Scalar.isFinite (value x) = true) :
    (s.surface value).Sound := by
  refine sound_surface_iff.mpr ⟨hne, hfinite, hincreasing, fun i hi ↦ ?_⟩
  have hphysical := hbranch i hi
  refine ⟨hphysical.ne_nil, fun x hx ↦ ?_, hphysical.increasing⟩
  have hx' := hphysical.sample x hx
  exact ⟨hx'.ratio, hvalue x hx'⟩

variable {family : Family} {region : Region.Id} {raw : BranchSet Exact}

theorem branchSize_pos (hraw : ∀ i < raw.size, GasSample.PhysicalBranch (raw.branch i)) {i : Nat}
    (hi : i < raw.size) : 0 < raw.branchSize i :=
  List.length_pos_of_ne_nil (hraw i hi).ne_nil

theorem nodeFault_iff (hraw : ∀ i < raw.size, GasSample.PhysicalBranch (raw.branch i)) {i : Nat}
    (hi : i < raw.size) {e : PropertyError Exact} :
    raw.NodeFault family region i e ↔ (∀ j, i ≤ j → j < raw.size → raw.branchSize j = 1) ∧
      e = .extrapolationImpossible family region i := by
  constructor
  · intro h
    cases h with
    | noMaster hshort hnone =>
      refine ⟨fun j hij hj ↦ ?_, rfl⟩
      have hpos := branchSize_pos hraw hj
      rcases Nat.eq_or_lt_of_le hij with rfl | hlt
      · omega
      · have hshort' := hnone j hlt
        omega
    | @noProlongation m e hshort hm hfailed =>
      have hpos := branchSize_pos hraw hi
      have htwo := hm.two_le
      have hsingle : raw.branchSize i = 1 := by omega
      obtain ⟨added, hadded, -⟩ :=
        GasSample.prolong_eq_ok (hraw i hi) hsingle (hraw m (lt_size_of_branchSize (by omega)))
      rw [hadded] at hfailed
      cases hfailed
  · intro h
    obtain ⟨hsingle, rfl⟩ := h
    refine .noMaster (by rw [hsingle i (Nat.le_refl i) hi]; decide) fun m him ↦ ?_
    by_cases hm : m < raw.size
    · rw [hsingle m (by omega) hm]
      decide
    · rw [branchSize, branch_eq_nil_of_size_le (by omega)]
      decide

theorem Completed.Completes.physicalBranch {c : Completed Exact} (h : c.Completes raw)
    (hraw : ∀ i < raw.size, GasSample.PhysicalBranch (raw.branch i)) {i : Nat} (hi : i < raw.size) :
    GasSample.PhysicalBranch (c.branches.branch i) := by
  have hpos := branchSize_pos hraw hi
  by_cases htwo : 2 ≤ raw.branchSize i
  · rw [h.supplied i htwo]
    exact hraw i hi
  · have hsingle : raw.branchSize i = 1 := by omega
    obtain ⟨m, added, hm, hadded, hbranch, -⟩ := h.prolonged i hsingle
    have hm' := hm.two_le
    obtain ⟨added', hadded', hphysical⟩ :=
      GasSample.prolong_eq_ok (hraw i hi) hsingle (hraw m (lt_size_of_branchSize (by omega)))
    rw [hadded] at hadded'
    cases hadded'
    rw [hbranch]
    exact hphysical

theorem Completed.Completes.freeze_eq_ok {c : Completed Exact} (h : c.Completes raw)
    (hraw : ∀ i < raw.size, GasSample.PhysicalBranch (raw.branch i)) (hne : 0 < raw.size)
    (hfinite : Axis.Finite raw.pressures) (hincreasing : Axis.Increasing raw.pressures) :
    ∃ f, c.branches.freeze = .ok f := by
  have hsize := h.size_eq
  have hsound (value : GasSample Exact → Exact)
      (hvalue : ∀ x : GasSample Exact, x.Physical → Scalar.isFinite (value x) = true) :
      (c.branches.surface value).Sound := by
    refine sound_surface ?_ ?_ ?_ ?_ hvalue
    · exact List.ne_nil_of_length_pos (by rw [← size, hsize]; exact hne)
    · rw [h.pressures]
      exact hfinite
    · rw [h.pressures]
      exact hincreasing
    · intro i hi
      exact h.physicalBranch hraw (hsize ▸ hi)
  refine ⟨_, freeze_eq_ok_iff.mpr ⟨hsound _ fun x hx ↦ ?_, hsound _ fun x hx ↦ ?_, rfl⟩⟩
  · obtain ⟨b, hb, hfactor⟩ := isPositive_iff.mp hx.volumeFactor
    rw [inverseVolumeFactor, hfactor, one_eq, number_div _ hb.ne']
    rfl
  · exact isFinite_of_isPositive hx.viscosity

end BranchSet

namespace GasTable

variable {family : Family} {region : Region.Id} {t : GasTable Exact}

omit [Scalar α] in
theorem length_branch {t : GasTable α} {i : Nat} (hi : i < t.saturated.length) :
    (t.branch i).length = (BranchSet.ofTable t).branchSize i := by
  rw [BranchSet.branchSize, BranchSet.branch_ofTable hi]

theorem Accepted.two_le_lastBranch (h : t.Accepted) (hcompletable : (BranchSet.ofTable t).Completable) :
    2 ≤ t.lastBranch.length := by
  have htwo : 2 ≤ t.saturated.length := h.two_le
  have hsize := BranchSet.size_ofTable t
  have hlast : t.saturated.length - 1 < t.saturated.length := by omega
  have hpos := hcompletable.branchSize_pos (show t.saturated.length - 1 < (BranchSet.ofTable t).size by omega)
  rw [lastBranch, length_branch hlast]
  by_contra hshort
  obtain ⟨m, hm, hm'⟩ := hcompletable.later (t.saturated.length - 1) (by omega)
  have hmsize := BranchSet.lt_size_of_branchSize (show 0 < (BranchSet.ofTable t).branchSize m by omega)
  omega

theorem Accepted.singleFrom (h : t.Accepted) {i : Nat} (hi : i < (BranchSet.ofTable t).size)
    (hsingle : ∀ j, i ≤ j → j < (BranchSet.ofTable t).size → (BranchSet.ofTable t).branchSize j = 1)
    (hbefore : ∀ j < i, ∀ e, ¬ (BranchSet.ofTable t).NodeFault family region j e) :
    t.SingleFrom i := by
  have hsize := BranchSet.size_ofTable t
  refine ⟨by omega, fun j hij hj ↦ ?_, fun j hj hone ↦ ?_⟩
  · rw [length_branch hj]
    exact hsingle j hij (by omega)
  · have hfault : ∀ k, j ≤ k → k < (BranchSet.ofTable t).size → (BranchSet.ofTable t).branchSize k = 1 := by
      intro k hjk hk
      rcases Nat.eq_or_lt_of_le hjk with rfl | hlt
      · rw [← length_branch (by omega)]
        exact hone
      · exact hsingle k (by omega) hk
    exact hbefore j (by omega) _
      ((BranchSet.nodeFault_iff (BranchSet.physicalBranch_ofTable h) (by omega)).mpr ⟨hfault, rfl⟩)

end GasTable

namespace GasProperties

variable {family : Family} {region : Region.Id} {t : GasTable Exact}

theorem exists_ofTable_of_complete {c : BranchSet.Completed Exact} (h : t.Accepted)
    (hc : (BranchSet.ofTable t).complete family region = .ok c) :
    ∃ g, ofTable family region t = .ok g := by
  obtain ⟨-, hcompletes⟩ := BranchSet.completes_of_complete hc
  have htwo : 2 ≤ t.saturated.length := h.two_le
  have hsize := BranchSet.size_ofTable t
  have hpressures := BranchSet.pressures_ofTable t
  have hfinite : Axis.Finite t.pressures := finite_pressures h.row
  obtain ⟨f, hf⟩ := hcompletes.freeze_eq_ok (BranchSet.physicalBranch_ofTable h) (by omega)
    (hpressures ▸ hfinite) (hpressures ▸ h.increasing)
  exact ⟨⟨family, _, f.inverseVolumeFactor, f.viscosity, c.extensions⟩,
    ofTable_eq_ok_iff.mpr ⟨c, h.two_le, SaturatedCurves.ofTable_eq_ok h, hc, hf, rfl, rfl⟩⟩

theorem ofTable_eq_error_of_complete {e : PropertyError Exact} (h : t.Accepted)
    (he : (BranchSet.ofTable t).complete family region = .error e) :
    ofTable family region t = .error e := by
  rw [ofTable, TableOrigin.accept_tooShort_iff.mpr h.two_le, SaturatedCurves.ofTable_eq_ok h, he]
  rfl

theorem ofTable_cases (h : t.Accepted) (family : Family) (region : Region.Id) :
    (2 ≤ t.lastBranch.length ∧ ∃ g, ofTable family region t = .ok g) ∨
    t.lastBranch.length = 1 ∧ ∃ s, t.SingleFrom s ∧
      ofTable family region t = .error (.extrapolationImpossible family region s) := by
  rcases BranchSet.complete_cases family region (BranchSet.ofTable t) with
    ⟨c, hc, hcompletable, -⟩ | ⟨e, he, i, hi, hfault, hbefore⟩
  · exact .inl ⟨h.two_le_lastBranch hcompletable, exists_ofTable_of_complete h hc⟩
  · obtain ⟨hsingle, rfl⟩ := (BranchSet.nodeFault_iff (BranchSet.physicalBranch_ofTable h) hi).mp hfault
    have hfrom := h.singleFrom hi hsingle hbefore
    have hlast := hfrom.single (t.saturated.length - 1) (by have := hfrom.lt; omega)
      (by have := hfrom.lt; omega)
    exact .inr ⟨hlast, i, hfrom, ofTable_eq_error_of_complete h he⟩

end GasProperties

namespace Deck

variable {d : Deck Exact}

theorem construction_cases (h : d.check = .ok ()) {i : Nat} {family : Family} {t : GasTable Exact}
    (ht : (d.gasTables family)[i]? = some t) :
    (2 ≤ t.lastBranch.length ∧ Stage.construction.outcome d ⟨i, .gas family⟩ = .ok ()) ∨
    t.lastBranch.length = 1 ∧ ∃ s, t.SingleFrom s ∧ Stage.construction.outcome d ⟨i, .gas family⟩ =
      .error (.extrapolationImpossible family (.ofNat i) s) := by
  have houtcome : Stage.construction.outcome d ⟨i, .gas family⟩ =
      discard (GasProperties.ofTable family (.ofNat i) t) := by
    rw [Stage.outcome_gas, ht]
    rfl
  rw [houtcome, discard_eq_ok_iff]
  rcases GasProperties.ofTable_cases (accepted_of_check h ht) family (.ofNat i) with hok | ⟨hone, s, hs, he⟩
  · exact .inl hok
  · exact .inr ⟨hone, s, hs, discard_eq_error_iff.mpr he⟩

theorem construction_salt (h : d.check = .ok ()) (i : Nat) :
    Stage.construction.outcome d ⟨i, .salt⟩ = .ok () := by
  rw [Stage.outcome_salt]
  cases ht : d.salt[i]? with
  | none => rfl
  | some t => exact discard_eq_ok_iff.mpr ⟨_, (accepted_salt_of_check h ht).surface_eq_ok⟩

theorem forall_construction_iff (h : d.check = .ok ()) :
    (∀ p, Stage.construction.outcome d p = .ok ()) ↔ d.Completable := by
  constructor
  · intro hall i family t ht
    rcases construction_cases h ht with ⟨htwo, -⟩ | ⟨-, s, -, he⟩
    · exact htwo
    · rw [hall] at he
      cases he
  · intro hall p
    obtain ⟨i, part⟩ := p
    cases part with
    | salt => exact construction_salt h i
    | gas family =>
      cases ht : (d.gasTables family)[i]? with
      | none =>
        rw [Stage.outcome_gas, ht]
        rfl
      | some t =>
        rcases construction_cases h ht with ⟨-, hok⟩ | ⟨hone, -⟩
        · exact hok
        · have htwo := hall i family t ht
          omega

theorem firstSingle_of_firstFailure (h : d.check = .ok ()) {e : PropertyError Exact}
    (he : Stage.construction.FirstFailure d e) :
    ∃ i family s, d.FirstSingle i family s ∧ e = .extrapolationImpossible family (.ofNat i) s := by
  obtain ⟨⟨i, part⟩, hp, hbefore⟩ := he
  cases part with
  | salt =>
    rw [construction_salt h i] at hp
    cases hp
  | gas family =>
    cases ht : (d.gasTables family)[i]? with
    | none =>
      rw [Stage.outcome_gas, ht] at hp
      cases hp
    | some t =>
      rcases construction_cases h ht with ⟨-, hok⟩ | ⟨hone, s, hs, hfailed⟩
      · rw [hok] at hp
        cases hp
      · rw [hfailed] at hp
        cases hp
        refine ⟨i, family, s, ⟨⟨t, ht, hone, hs⟩, fun j family' t' hj ht' ↦ ?_⟩, rfl⟩
        rcases construction_cases h ht' with ⟨htwo, -⟩ | ⟨-, s', -, hfailed'⟩
        · omega
        · rw [hbefore _ hj] at hfailed'
          cases hfailed'

end Deck

namespace Model

/-- In exact arithmetic an accepted deck has a model if and only if no gas table ends with a single sample.
Otherwise the build reports the first table that does, at the first of its single samples up to the last
node. -/
theorem build_of_check {d : Deck Exact} (h : d.check = .ok ()) (options : BuildOptions)
    (control : VaporizationControl Exact) :
    ((∃ m, build options control d = .ok m) ↔ d.Completable) ∧
    (¬ d.Completable → ∃ i family s, d.FirstSingle i family s ∧
      build options control d = .error (.extrapolationImpossible family (.ofNat i) s)) := by
  have hiff : (∃ m, build options control d = .ok m) ↔ d.Completable := by
    rw [exists_build_iff h, Deck.forall_construction_iff h]
  refine ⟨hiff, fun hnot ↦ ?_⟩
  cases hbuild : build options control d with
  | ok m => exact absurd (hiff.mp ⟨m, hbuild⟩) hnot
  | error e =>
    rcases build_eq_error_iff.mp hbuild with he | ⟨-, he⟩
    · rw [h] at he
      cases he
    · obtain ⟨i, family, s, hfirst, rfl⟩ := Deck.firstSingle_of_firstFailure h he
      exact ⟨i, family, s, hfirst, rfl⟩

def singleEnd : Deck Exact where
  densities := [⟨.number 800, .number 1, .number 1000⟩]
  wet := [⟨[⟨.number 1, .number 4, .number 1, .number 1⟩, ⟨.number 2, .number 2, .number 1, .number 2⟩],
    [[.numbers 1 4 1], [.numbers 2 2 1, .numbers 3 1 1]]⟩]
  humid := [⟨[⟨.number 1, .number 4, .number 1, .number 1⟩, ⟨.number 2, .number 2, .number 1, .number 2⟩,
      ⟨.number 3, .number 1, .number 1, .number 3⟩],
    [[.numbers 1 4 1, .numbers 2 3 1], [.numbers 2 2 1], [.numbers 3 1 1]]⟩]

theorem build_singleEnd : ∃ i family s, singleEnd.FirstSingle i family s ∧
    build {} .inactive singleEnd = .error (.extrapolationImpossible family (.ofNat i) s) := by
  have hcheck : singleEnd.check = .ok () := by decide +kernel
  have hnot : ¬ singleEnd.Completable := by
    intro hall
    have htwo := hall 0 .humid _ rfl
    exact absurd htwo (by decide +kernel)
  exact (build_of_check hcheck {} .inactive).2 hnot

end Model

end ReservoirGas
