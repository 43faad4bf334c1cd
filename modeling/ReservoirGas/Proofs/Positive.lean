import ReservoirGas.Proofs.Change
import ReservoirGas.Proofs.Failure

namespace ReservoirGas

open Outcome

namespace GasSample

open Binary64

/-- What can leave nothing of a number `last` that takes the change from `prev` to `next`: a fall that is too
steep, or any fall if there is too little of the number. -/
def Drains (prev next last : Float) : Prop :=
  ∃ a b l, toRat? prev = some a ∧ toRat? next = some b ∧ toRat? last = some l ∧ b < a ∧
    (2 ^ 52 * b < a ∨ l < 2 ^ (-1020 : ℤ))

section Number

variable {prev next last : Float}

theorem nonNegative_applyChange (hprev : Scalar.isPositive prev = true) (hnext : Scalar.isPositive next = true)
    (hlast : Binary64.NonNegative last)
    (hfinite : Scalar.isFinite (applyChange last (relativeChange prev next)) = true) :
    Binary64.NonNegative (applyChange last (relativeChange prev next)) := by
  obtain ⟨a, ha, ha'⟩ := isPositive_iff.mp hprev
  obtain ⟨b, hb, hb'⟩ := isPositive_iff.mp hnext
  obtain ⟨l, hl, hl'⟩ := nonNegative_iff.mp hlast
  obtain ⟨v, hv⟩ := isFinite_iff.mp hfinite
  obtain ⟨hnonneg, -⟩ := applyChange_bounds ha hb ha' hb' hl hl' hv
  exact nonNegative_iff.mpr ⟨v, hv, hnonneg⟩

theorem drains_of_applyChange (hprev : Scalar.isPositive prev = true) (hnext : Scalar.isPositive next = true)
    (hlast : Scalar.isPositive last = true)
    (hfinite : Scalar.isFinite (applyChange last (relativeChange prev next)) = true)
    (hzero : Scalar.isPositive (applyChange last (relativeChange prev next)) ≠ true) :
    Drains prev next last := by
  obtain ⟨a, ha, ha'⟩ := isPositive_iff.mp hprev
  obtain ⟨b, hb, hb'⟩ := isPositive_iff.mp hnext
  obtain ⟨l, hl, hl'⟩ := isPositive_iff.mp hlast
  obtain ⟨v, hv⟩ := isFinite_iff.mp hfinite
  have hv₀ : v ≤ 0 := by
    by_contra hpos
    exact hzero (isPositive_iff.mpr ⟨v, hv, not_le.mp hpos⟩)
  obtain ⟨-, hrise, hkeep⟩ := applyChange_bounds ha hb ha' hb' hl hl'.le hv
  refine ⟨a, b, l, ha, hb, hl, ?_, ?_⟩
  · by_contra hab
    exact absurd (hl'.trans_le (hrise (not_lt.mp hab))) hv₀.not_gt
  · by_contra hsmall
    obtain ⟨hfall, hsize⟩ := not_or.mp hsmall
    exact absurd (hkeep (not_lt.mp hfall) (not_lt.mp hsize)) hv₀.not_gt

end Number

structure NonNegative (s : GasSample Float) : Prop where
  volumeFactor : Binary64.NonNegative s.volumeFactor
  viscosity : Binary64.NonNegative s.viscosity

theorem Physical.nonNegative {s : GasSample Float} (h : s.Physical) : s.NonNegative :=
  ⟨nonNegative_of_isPositive h.volumeFactor, nonNegative_of_isPositive h.viscosity⟩

section Follow

variable {last prev next s : GasSample Float}

theorem NonNegative.follow (hlast : last.NonNegative) (hprev : prev.Physical) (hnext : next.Physical)
    (h : follow last prev next = .ok s) : s.NonNegative := by
  obtain ⟨rfl, -, hfactor, hviscosity⟩ := follow_eq_ok_iff.mp h
  exact ⟨nonNegative_applyChange hprev.volumeFactor hnext.volumeFactor hlast.volumeFactor hfactor,
    nonNegative_applyChange hprev.viscosity hnext.viscosity hlast.viscosity hviscosity⟩

theorem drains_of_follow (hprev : prev.Physical) (hnext : next.Physical)
    (hlast : Scalar.isPositive last.viscosity = true) (h : follow last prev next = .ok s)
    (hzero : Scalar.isPositive s.viscosity ≠ true) : Drains prev.viscosity next.viscosity last.viscosity := by
  obtain ⟨rfl, -, -, hviscosity⟩ := follow_eq_ok_iff.mp h
  exact drains_of_applyChange hprev.viscosity hnext.viscosity hlast hviscosity hzero

theorem NonNegative.followAll {master added : List (GasSample Float)} (hlast : last.NonNegative)
    (hmaster : ∀ s ∈ master, s.Physical) (h : followAll last master = .ok added) :
    ∀ s ∈ added, s.NonNegative := by
  -- along the master; each new sample is the last one of the next step
  induction master generalizing last added with
  | nil =>
    cases h
    simp
  | cons prev r ih =>
    cases r with
    | nil =>
      cases h
      simp
    | cons next r =>
      simp only [GasSample.followAll, bind_eq_ok_iff, pure_eq_ok_iff] at h
      obtain ⟨s, hs, rest, hrest, rfl⟩ := h
      obtain ⟨hprev, hmaster⟩ := List.forall_mem_cons.mp hmaster
      obtain ⟨hnext, -⟩ := List.forall_mem_cons.mp hmaster
      have hfirst := hlast.follow hprev hnext hs
      exact List.forall_mem_cons.mpr ⟨hfirst, ih hfirst hmaster hrest⟩

end Follow

end GasSample

namespace BranchSet

variable {raw : BranchSet Float} {c : Completed Float} {i j : Nat}

theorem Completed.Completes.physical_cases (h : c.Completes raw)
    (hraw : ∀ i < raw.size, GasSample.PhysicalBranch (raw.branch i)) (i : Nat) :
    (∀ s ∈ c.branches.branch i, s.Physical) ∨
    ∃ m last added, raw.IsMaster i m ∧ raw.branchSize i = 1 ∧ last.Physical ∧
      (∀ s ∈ raw.branch m, s.Physical) ∧ GasSample.followAll last (raw.branch m) = .ok added ∧
      c.branches.branch i = last :: added := by
  have hsample (i : ℕ) : ∀ s ∈ raw.branch i, s.Physical := by
    rcases Nat.lt_or_ge i raw.size with hi | hi
    · exact (hraw i hi).sample
    · simp [branch_eq_nil_of_size_le hi]
  have hcases := h.branch_cases (fun i hi ↦ (hraw i hi).ne_nil) i
  rcases hcases with hsame | ⟨m, last, added, hm, hlast, hadded, hbranch⟩
  · rw [hsame]
    exact .inl (hsample i)
  · have hphysical : last.Physical := hsample i last (by simp [hlast])
    have hone : raw.branchSize i = 1 := by rw [branchSize, hlast, List.length_singleton]
    exact .inr ⟨m, last, added, hm, hone, hphysical, hsample m, hadded, hbranch⟩

theorem Completed.Completes.nonNegative (h : c.Completes raw)
    (hraw : ∀ i < raw.size, GasSample.PhysicalBranch (raw.branch i)) :
    ∀ s ∈ c.branches.branch i, s.NonNegative := by
  rcases h.physical_cases hraw i with hall | ⟨m, last, added, -, -, hlast, hmaster, hadded, hbranch⟩
  · exact fun s hs ↦ (hall s hs).nonNegative
  · rw [hbranch]
    exact List.forall_mem_cons.mpr ⟨hlast.nonNegative, hlast.nonNegative.followAll hmaster hadded⟩

theorem Completed.Completes.drains (h : c.Completes raw)
    (hraw : ∀ i < raw.size, GasSample.PhysicalBranch (raw.branch i)) {x s : GasSample Float}
    (hx : (c.branches.branch i)[j]? = some x) (hs : (c.branches.branch i)[j + 1]? = some s)
    (hpos : Scalar.isPositive x.viscosity = true) (hzero : Scalar.isPositive s.viscosity ≠ true) :
    ∃ m prev next, raw.branchSize i = 1 ∧ raw.IsMaster i m ∧ (raw.branch m)[j]? = some prev ∧
      (raw.branch m)[j + 1]? = some next ∧
      GasSample.Drains prev.viscosity next.viscosity x.viscosity := by
  rcases h.physical_cases hraw i with hall | ⟨m, last, added, hm, hone, -, hmaster, hadded, hbranch⟩
  · exact absurd (hall s (List.mem_of_getElem? hs)).viscosity hzero
  · rw [hbranch] at hx hs
    obtain ⟨prev, next, hprev, hnext, hstep⟩ := GasSample.follow_of_followAll hadded hx hs
    refine ⟨m, prev, next, hone, hm, hprev, hnext, ?_⟩
    exact GasSample.drains_of_follow (hmaster prev (List.mem_of_getElem? hprev))
      (hmaster next (List.mem_of_getElem? hnext)) hpos hstep hzero

def Rising (branch : List (GasSample Float)) : Prop :=
  ∀ j prev next a b, branch[j]? = some prev → branch[j + 1]? = some next →
    Binary64.toRat? prev.viscosity = some a → Binary64.toRat? next.viscosity = some b → a ≤ b

theorem not_drains_of_rising {branch : List (GasSample Float)} (h : Rising branch) {prev next : GasSample Float}
    (hprev : branch[j]? = some prev) (hnext : branch[j + 1]? = some next) (last : Float) :
    ¬ GasSample.Drains prev.viscosity next.viscosity last := by
  rintro ⟨a, b, l, ha, hb, -, hfall, -⟩
  exact absurd (h j prev next a b hprev hnext ha hb) hfall.not_ge

theorem Completed.Completes.isPositive (h : c.Completes raw)
    (hraw : ∀ i < raw.size, GasSample.PhysicalBranch (raw.branch i)) (hrising : ∀ i, Rising (raw.branch i)) :
    ∀ s ∈ c.branches.branch i, Scalar.isPositive s.viscosity = true := by
  -- along the branch; its first sample is physical in either case
  have hall (j : ℕ) : ∀ s, (c.branches.branch i)[j]? = some s → Scalar.isPositive s.viscosity = true := by
    induction j with
    | zero =>
      intro s hs
      rcases h.physical_cases hraw i with hphysical | ⟨m, last, added, -, -, hlast, -, -, hbranch⟩
      · exact (hphysical s (List.mem_of_getElem? hs)).viscosity
      · rw [hbranch] at hs
        cases hs
        exact hlast.viscosity
    | succ j ih =>
      intro s hs
      have hlt : j + 1 < (c.branches.branch i).length := (List.getElem?_eq_some_iff.mp hs).1
      have hx : (c.branches.branch i)[j]? = some (c.branches.branch i)[j] :=
        List.getElem?_eq_getElem (Nat.lt_of_succ_lt hlt)
      by_contra hzero
      obtain ⟨m, prev, next, -, -, hprev, hnext, hdrains⟩ := h.drains hraw hx hs (ih _ hx) hzero
      exact not_drains_of_rising (hrising m) hprev hnext _ hdrains
  intro s hs
  obtain ⟨j, hj⟩ := List.mem_iff_getElem?.mp hs
  exact hall j s hj

end BranchSet

theorem Surface.Sound.finite_branchValues {α : Type} [Scalar α] {s : Surface α} (h : s.Sound) (i : Nat) :
    Axis.Finite (s.branchValues i) := by
  intro y hy
  rw [branchValues, branch] at hy
  cases hi : s.nodes[i]? with
  | none =>
    rw [hi] at hy
    cases hy
  | some n =>
    rw [hi] at hy
    obtain ⟨p, hp, rfl⟩ := List.mem_map.mp hy
    exact ((h.node n (List.mem_of_getElem? hi)).finite p hp).2

namespace SaturatedCurves

theorem isPositive_of_ofTable {t : GasTable Float} {c : SaturatedCurves Float} (ht : t.Accepted)
    (h : ofTable t = .ok c) : ∀ y ∈ c.inverseVolumeFactor.ys, Scalar.isPositive y = true := by
  obtain ⟨-, hcolumns, rfl⟩ := ofTable_eq_ok_iff.mp h
  have hfinite : Axis.Finite (t.saturated.map fun r ↦ Scalar.one / r.volumeFactor) :=
    hcolumns _ (by simp [columns])
  have hcurve : (ofColumns t).inverseVolumeFactor.ys = t.saturated.map fun r ↦ Scalar.one / r.volumeFactor :=
    ys_curve t _
  rw [hcurve]
  intro y hy
  have hy' := hfinite y hy
  obtain ⟨r, hr, rfl⟩ := List.mem_map.mp hy
  exact Binary64.isPositive_one_div (Binary64.nonNegative_of_isPositive (ht.row r hr).volumeFactor) hy'

end SaturatedCurves

namespace GasProperties

/-- The signs in the tables `g` of the raw table `t`. Inverse volume factors are positive. Viscosities are not
negative; they are positive where they were supplied, and a viscosity of zero after a positive one comes from a
master's fall that drains it, so there is none if no supplied branch falls. -/
structure Signs (g : GasProperties Float) (t : GasTable Float) : Prop where
  saturated : ∀ y ∈ g.saturated.inverseVolumeFactor.ys, Scalar.isPositive y = true
  inverseVolumeFactor : ∀ i, ∀ y ∈ g.inverseVolumeFactor.branchValues i, Scalar.isPositive y = true
  viscosity : ∀ i, ∀ y ∈ g.viscosity.branchValues i, Binary64.NonNegative y
  supplied : ∀ i < t.saturated.length, (t.branch i).map GasSample.viscosity <+: g.viscosity.branchValues i ∧
    ∀ s ∈ t.branch i, Scalar.isPositive s.viscosity = true
  drained : ∀ i j x y, (g.viscosity.branchValues i)[j]? = some x →
    (g.viscosity.branchValues i)[j + 1]? = some y → Scalar.isPositive x = true → Scalar.isPositive y ≠ true →
    ∃ m prev next, (t.branch i).length = 1 ∧ (BranchSet.ofTable t).IsMaster i m ∧
      (t.branch m)[j]? = some prev ∧ (t.branch m)[j + 1]? = some next ∧
      GasSample.Drains prev.viscosity next.viscosity x
  rising : (∀ i < t.saturated.length, BranchSet.Rising (t.branch i)) →
    ∀ i, ∀ y ∈ g.viscosity.branchValues i, Scalar.isPositive y = true

variable {family : Family} {region : Region.Id} {t : GasTable Float} {g : GasProperties Float}

theorem signs_of_ofTable (ht : t.Accepted) (h : ofTable family region t = .ok g) : g.Signs t := by
  obtain ⟨-, -, hsaturated, -⟩ := ofTable_eq_ok_iff.mp h
  obtain ⟨c, hc, hi, hv, hinverse, -, -⟩ := exists_holds_of_ofTable h
  obtain ⟨hcompletable, hcompletes⟩ := BranchSet.completes_of_complete hc
  have hraw := BranchSet.physicalBranch_ofTable ht
  have hsize := BranchSet.size_ofTable t
  have hvalues (i : ℕ) : g.viscosity.branchValues i = (c.branches.branch i).map GasSample.viscosity := by
    rw [hv, BranchSet.branchValues_surface]
  refine ⟨SaturatedCurves.isPositive_of_ofTable ht hsaturated, fun i ↦ ?_, fun i ↦ ?_, fun i hlt ↦ ⟨?_, ?_⟩,
    fun i j x y hx hy hpos hzero ↦ ?_, fun hrising i ↦ ?_⟩
  · have hfinite := hinverse.finite_branchValues i
    rw [hi, BranchSet.branchValues_surface] at hfinite ⊢
    refine List.forall_mem_map.mpr fun s hs ↦ ?_
    exact Binary64.isPositive_one_div (hcompletes.nonNegative hraw s hs).volumeFactor
      (hfinite _ (List.mem_map_of_mem hs))
  · rw [hvalues]
    exact List.forall_mem_map.mpr fun s hs ↦ (hcompletes.nonNegative hraw s hs).viscosity
  · rw [hvalues, ← BranchSet.branch_ofTable hlt]
    exact (hcompletes.isPrefix hcompletable (hsize ▸ hlt)).map _
  · exact fun s hs ↦ ((ht.branch i hlt).sample s hs).viscosity
  · rw [hvalues, List.getElem?_map] at hx hy
    obtain ⟨x', hx', rfl⟩ := Option.map_eq_some_iff.mp hx
    obtain ⟨y', hy', rfl⟩ := Option.map_eq_some_iff.mp hy
    obtain ⟨m, prev, next, hone, hm, hprev, hnext, hdrains⟩ := hcompletes.drains hraw hx' hy' hpos hzero
    have hi' := BranchSet.lt_size_of_branchSize (show 0 < (BranchSet.ofTable t).branchSize i by omega)
    have hm' := BranchSet.lt_size_of_branchSize (Nat.zero_lt_two.trans_le hm.two_le)
    rw [hsize] at hi' hm'
    rw [BranchSet.branchSize, BranchSet.branch_ofTable hi'] at hone
    rw [BranchSet.branch_ofTable hm'] at hprev hnext
    exact ⟨m, prev, next, hone, hm, hprev, hnext, hdrains⟩
  · rw [hvalues]
    refine List.forall_mem_map.mpr (hcompletes.isPositive hraw fun i ↦ ?_)
    rcases Nat.lt_or_ge i t.saturated.length with hlt | hge
    · rw [BranchSet.branch_ofTable hlt]
      exact hrising i hlt
    · rw [BranchSet.branch_eq_nil_of_size_le (hsize ▸ hge)]
      intro j prev next a b hprev
      cases hprev

end GasProperties

namespace Model

/-- The signs in a model that is built at all, region by region, for any numbers in the deck. -/
theorem signs_of_build {options : BuildOptions} {control : VaporizationControl Float} {d : Deck Float}
    {m : Model Float} (h : build options control d = .ok m) {i : Nat} {r : RegionProperties Float}
    (hr : m.regions[i]? = some r) (family : Family) :
    ∃ t, (d.gasTables family)[i]? = some t ∧ (r.gas family).Signs t := by
  obtain ⟨hcheck, hregions, -, -⟩ := build_eq_ok_iff.mp h
  obtain ⟨e, he, hofEntry⟩ := exists_entry_of_inTurn hregions hr
  obtain ⟨hgas, -⟩ := RegionProperties.ofEntry_eq_ok_iff.mp hofEntry
  have ht := Deck.getElem?_gasTables he family
  exact ⟨e.gasTable family, ht, GasProperties.signs_of_ofTable (Deck.accepted_of_check hcheck ht) (hgas family)⟩

def steepFall : Deck Float where
  densities := [⟨800, 1, 1000⟩]
  wet := [⟨[⟨1, 2, 1, 1⟩, ⟨2, 1, 1, 2⟩], [[⟨1, 2, 1⟩], [⟨2, 1, 1⟩, ⟨3, 1, 1e-20⟩]]⟩]
  humid := [⟨[⟨1, 2, 1, 1⟩, ⟨2, 1, 1, 2⟩], [[⟨1, 2, 1⟩], [⟨2, 1, 1⟩, ⟨3, 1, 1⟩]]⟩]

/-- A viscosity of zero is stored where the exact one is positive. -/
theorem signs_steepFall : ∃ m r t, build {} .inactive steepFall = .ok m ∧ m.regions[0]? = some r ∧
    (steepFall.gasTables .wet)[0]? = some t ∧ (r.gas .wet).Signs t ∧
    (r.gas .wet).viscosity.branchValues 0 = [1, 0] := by
  have hvalues : ((build {} .inactive steepFall).toOption.bind fun m ↦
      m.regions[0]?.map fun r ↦ (r.gas .wet).viscosity.branchValues 0) = some [1, 0] := by decide +kernel
  cases hm : build {} .inactive steepFall with
  | error e =>
    rw [hm] at hvalues
    cases hvalues
  | ok m =>
    rw [hm] at hvalues
    obtain ⟨r, hr, hzero⟩ := Option.map_eq_some_iff.mp hvalues
    obtain ⟨t, ht, hsigns⟩ := signs_of_build hm hr .wet
    exact ⟨m, r, t, rfl, hr, ht, hsigns, hzero⟩

end Model

end ReservoirGas
