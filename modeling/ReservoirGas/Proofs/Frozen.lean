import ReservoirGas.Proofs.Binary64
import ReservoirGas.Proofs.Lockstep

namespace ReservoirGas

open Outcome

namespace BranchSet

variable {α : Type} [Scalar α]

structure Freezable (s : BranchSet α) : Prop where
  ne_nil : s.nodes ≠ []
  finite : Axis.Finite s.pressures
  increasing : Axis.Increasing s.pressures
  branch_ne_nil : ∀ i < s.size, s.branch i ≠ []
  finite_ratios : ∀ i < s.size, Axis.Finite ((s.branch i).map GasSample.ratio)
  increasing_ratios : ∀ i < s.size, Axis.Increasing ((s.branch i).map GasSample.ratio)
  values : ∀ i < s.size, ∀ x ∈ s.branch i,
    Scalar.isFinite (Scalar.one / x.volumeFactor) = true ∧ Scalar.isFinite x.viscosity = true

/-- Both surfaces have the axes of `s`, and at each place of `s` its two values. -/
structure Frozen.Shows (f : Frozen α) (s : BranchSet α) : Prop where
  inverse_xs : f.inverseVolumeFactor.xs = s.pressures
  viscosity_xs : f.viscosity.xs = s.pressures
  inverse_branch : ∀ i, f.inverseVolumeFactor.branch i =
    (s.branch i).map fun x ↦ (x.ratio, Scalar.one / x.volumeFactor)
  viscosity_branch : ∀ i, f.viscosity.branch i = (s.branch i).map fun x ↦ (x.ratio, x.viscosity)

def tabulate (value : GasSample α → α) (s : BranchSet α) : Except TableError (Surface α) :=
  s.draft value >>= Surface.Draft.build

/-- What is first found wrong with a set: what is wrong with the surface of the inverse volume factor, or
else a viscosity that is not finite at the first node that has one. -/
inductive FirstFault (s : BranchSet α) : TableError → Prop
  | inverse {e : TableError} (fault : Surface.Draft.FirstFault ⟨(s.surface inverseVolumeFactor).nodes⟩ e) :
    FirstFault s e
  | viscosity {i : Nat} {x : GasSample α} (inverse : (s.surface inverseVolumeFactor).Sound)
    (before : ∀ j < i, ∀ y ∈ s.branch j, Scalar.isFinite y.viscosity = true) (mem : x ∈ s.branch i)
    (notFinite : Scalar.isFinite x.viscosity = false) : FirstFault s (.nonFinite "inner sample" i)

variable {s : BranchSet α} {value : GasSample α → α} {e : TableError}

theorem freezable_iff : s.Freezable ↔
    (s.surface inverseVolumeFactor).Sound ∧ (s.surface GasSample.viscosity).Sound := by
  simp only [sound_surface_iff]
  constructor
  · intro h
    refine ⟨⟨h.ne_nil, h.finite, h.increasing, fun i hi ↦ ?_⟩, h.ne_nil, h.finite, h.increasing, fun i hi ↦ ?_⟩
    · refine ⟨h.branch_ne_nil i hi, fun x hx ↦ ⟨?_, (h.values i hi x hx).1⟩, h.increasing_ratios i hi⟩
      exact h.finite_ratios i hi _ (List.mem_map.mpr ⟨x, hx, rfl⟩)
    · refine ⟨h.branch_ne_nil i hi, fun x hx ↦ ⟨?_, (h.values i hi x hx).2⟩, h.increasing_ratios i hi⟩
      exact h.finite_ratios i hi _ (List.mem_map.mpr ⟨x, hx, rfl⟩)
  · intro h
    obtain ⟨⟨hne, hfinite, hincreasing, hinverse⟩, -, -, -, hviscosity⟩ := h
    refine ⟨hne, hfinite, hincreasing, fun i hi ↦ (hinverse i hi).ne_nil, fun i hi ↦ ?_,
      fun i hi ↦ (hinverse i hi).increasing, fun i hi x hx ↦ ?_⟩
    · exact List.forall_mem_map.mpr fun x hx ↦ ((hinverse i hi).finite x hx).1
    · exact ⟨((hinverse i hi).finite x hx).2, ((hviscosity i hi).finite x hx).2⟩

theorem shows_surfaces (s : BranchSet α) :
    Frozen.Shows ⟨s.surface inverseVolumeFactor, s.surface GasSample.viscosity⟩ s :=
  ⟨xs_surface _ s, xs_surface _ s, branch_surface _ s, branch_surface _ s⟩

omit [Scalar α] in
theorem getElem?_nodes_surface (value : GasSample α → α) {i : Nat} (hi : i < s.size) :
    ∃ p, (s.surface value).nodes[i]? = some ⟨p, (s.branch i).map fun x ↦ (x.ratio, value x)⟩ := by
  refine ⟨s.nodes[i].pressure, ?_⟩
  rw [surface, List.getElem?_map, branch, List.getElem?_eq_getElem hi]
  rfl

omit [Scalar α] in
theorem branch_of_getElem?_surface {i : Nat} {n : Surface.Node α} (h : (s.surface value).nodes[i]? = some n) :
    i < s.size ∧ n.branch = (s.branch i).map fun x ↦ (x.ratio, value x) := by
  have hi : i < s.size := by
    have hlength := (List.getElem?_eq_some_iff.mp h).1
    rwa [surface, List.length_map] at hlength
  obtain ⟨p, hp⟩ := getElem?_nodes_surface value hi
  cases h.symm.trans hp
  exact ⟨hi, rfl⟩

theorem forall_sound_take_iff {i : Nat} (hi : i ≤ s.size) :
    (∀ n ∈ (s.surface value).nodes.take i, n.Sound) ↔ ∀ j < i, Tabular value (s.branch j) := by
  -- the first nodes of the surface are the surface of a shorter set
  have htake : (s.surface value).nodes.take i = (surface value ⟨s.nodes.take i⟩).nodes :=
    List.map_take.symm
  have hsize : size ⟨s.nodes.take i⟩ = i := List.length_take_of_le hi
  rw [htake, forall_sound_surface_iff, hsize]
  refine forall₂_congr fun j hj ↦ ?_
  rw [branch, branch, List.getElem?_take_of_lt hj]

variable [Scalar.Ordered α]

theorem exists_tabulate_iff : (∃ f, s.tabulate value = .ok f) ↔ (s.surface value).Sound := by
  rw [tabulate, draft_eq_ok]
  constructor
  · intro h
    obtain ⟨⟨_⟩, hf⟩ := h
    obtain ⟨hsound, hnodes⟩ := Surface.Draft.build_eq_ok_iff.mp hf
    cases hnodes
    exact hsound
  · intro h
    exact ⟨s.surface value, Surface.Draft.build_eq_ok_iff.mpr ⟨h, rfl⟩⟩

theorem tabulate_eq_error_iff :
    s.tabulate value = .error e ↔ Surface.Draft.FirstFault ⟨(s.surface value).nodes⟩ e := by
  rw [tabulate, draft_eq_ok]
  exact Surface.Draft.build_eq_error_iff

omit [Scalar.Ordered α] in
theorem freeze_eq_error_iff : s.freeze = .error e ↔ s.tabulate inverseVolumeFactor = .error e ∨
    (∃ f, s.tabulate inverseVolumeFactor = .ok f) ∧ s.tabulate GasSample.viscosity = .error e := by
  have hfreeze : s.freeze = s.tabulate inverseVolumeFactor >>= fun f ↦
      s.tabulate GasSample.viscosity >>= fun f' ↦ pure ⟨f, f'⟩ := by
    rw [freeze, tabulate, tabulate, draft_eq_ok, draft_eq_ok]
    rfl
  rw [hfreeze]
  simp only [bind_eq_error_iff, pure_ne_error, and_false, exists_false, or_false, exists_and_right]

omit [Scalar.Ordered α] in
/-- Where the inverse volume factor has a surface, only the viscosities themselves can be at fault. -/
theorem firstFault_viscosity_iff (h : (s.surface inverseVolumeFactor).Sound) :
    Surface.Draft.FirstFault ⟨(s.surface GasSample.viscosity).nodes⟩ e ↔
      ∃ i, (∀ j < i, ∀ y ∈ s.branch j, Scalar.isFinite y.viscosity = true) ∧
        (∃ x ∈ s.branch i, Scalar.isFinite x.viscosity = false) ∧ e = .nonFinite "inner sample" i := by
  obtain ⟨hne, hfinite, hincreasing, htabular⟩ := sound_surface_iff.mp h
  have hxs : Surface.Draft.xs ⟨(s.surface GasSample.viscosity).nodes⟩ = s.pressures := xs_surface _ s
  rw [← hxs] at hfinite hincreasing
  constructor
  · intro hfault
    cases hfault with
    | noNodes hnodes => exact absurd (List.map_eq_nil_iff.mp hnodes) hne
    | position hfirst => exact absurd hfinite hfirst.not_finite
    | order _ hdrop => exact absurd hincreasing hdrop.not_increasing
    | @node i n _ _ _ hn hbefore hfault =>
      -- the ratios are those of the other surface, so only a viscosity is left
      obtain ⟨hi, hbranch⟩ := branch_of_getElem?_surface hn
      cases hfault with
      | empty hempty =>
        rw [hbranch, List.map_eq_nil_iff] at hempty
        exact absurd hempty (htabular i hi).ne_nil
      | sample hs hvalue =>
        rw [hbranch] at hs
        obtain ⟨x, hx, rfl⟩ := List.mem_map.mp hs
        refine ⟨i, fun j hj y hy ↦ ?_, ⟨x, hx, ?_⟩, rfl⟩
        · exact (((forall_sound_take_iff (Nat.le_of_lt hi)).mp hbefore j hj).finite y hy).2
        · rw [← Bool.not_eq_true]
          intro hviscosity
          exact hvalue ⟨((htabular i hi).finite x hx).1, hviscosity⟩
      | order _ hunordered =>
        rw [hbranch, List.map_map] at hunordered
        exact absurd (htabular i hi).increasing hunordered
  · intro hviscosity
    obtain ⟨i, hbefore, ⟨x, hx, hvalue⟩, rfl⟩ := hviscosity
    have hi : i < s.size := lt_size_of_branchSize (List.length_pos_of_mem hx)
    obtain ⟨p, hp⟩ := getElem?_nodes_surface GasSample.viscosity hi
    refine .node hfinite hincreasing hp ((forall_sound_take_iff (Nat.le_of_lt hi)).mpr fun j hj ↦ ?_) ?_
    · have htabular' := htabular j (by omega)
      refine ⟨htabular'.ne_nil, fun y hy ↦ ?_, htabular'.increasing⟩
      exact ⟨(htabular'.finite y hy).1, hbefore j hj y hy⟩
    · refine .sample (List.mem_map.mpr ⟨x, hx, rfl⟩) ?_
      rw [hvalue]
      simp

theorem freeze_eq_error_iff_firstFault : s.freeze = .error e ↔ s.FirstFault e := by
  rw [freeze_eq_error_iff, exists_tabulate_iff, tabulate_eq_error_iff, tabulate_eq_error_iff]
  constructor
  · intro h
    rcases h with hinverse | ⟨hsound, hviscosity⟩
    · exact .inverse hinverse
    · obtain ⟨i, hbefore, ⟨x, hx, hvalue⟩, rfl⟩ := (firstFault_viscosity_iff hsound).mp hviscosity
      exact .viscosity hsound hbefore hx hvalue
  · intro h
    cases h with
    | inverse hinverse => exact .inl hinverse
    | viscosity hsound hbefore hx hvalue =>
      exact .inr ⟨hsound, (firstFault_viscosity_iff hsound).mpr ⟨_, hbefore, ⟨_, hx, hvalue⟩, rfl⟩⟩

/-- A set that is stored as two lists, and a set that it is completed to, is the set of its lists. It has
both surfaces exactly if its axes increase and its numbers are finite, and then they show it. Else the first
surface that cannot be made gives its error. -/
theorem freeze_outcome {pressures : List Float} {branches : List (List (GasSample Float))}
    {s : BranchSet Float} (h : Stored pressures branches s) :
    (s.pressures = pressures ∧ s.branches = branches ∧ freezeColumns pressures branches = s.freeze) ∧
    (∀ family region c, s.complete family region = .ok c →
      ∃ branches', Stored pressures branches' c.branches) ∧
    ((∃ f, s.freeze = .ok f) ↔ s.Freezable) ∧
    (∀ f, s.freeze = .ok f → f.Shows s) ∧
    (∀ e, s.freeze = .error e ↔ s.tabulate inverseVolumeFactor = .error e ∨
      (∃ f, s.tabulate inverseVolumeFactor = .ok f) ∧ s.tabulate GasSample.viscosity = .error e) ∧
    (∀ e, s.freeze = .error e ↔ s.FirstFault e) ∧
    ∀ i count, s.freeze ≠ .error (.nodeOutOfRange i count) := by
  obtain ⟨hpressures, hbranches⟩ := h.lists
  refine ⟨⟨hpressures, hbranches, ?_⟩, fun family region c hc ↦ h.of_complete hc, ?_, ?_,
    fun e ↦ freeze_eq_error_iff, fun e ↦ freeze_eq_error_iff_firstFault, ?_⟩
  · rw [← hpressures, ← hbranches]
    exact freezeColumns_eq s
  · rw [freezable_iff]
    constructor
    · intro hok
      obtain ⟨f, hf⟩ := hok
      obtain ⟨hinverse, hviscosity, -⟩ := freeze_eq_ok_iff.mp hf
      exact ⟨hinverse, hviscosity⟩
    · intro hsound
      obtain ⟨hinverse, hviscosity⟩ := hsound
      exact ⟨_, freeze_eq_ok_iff.mpr ⟨hinverse, hviscosity, rfl⟩⟩
  · intro f hf
    obtain ⟨-, -, rfl⟩ := freeze_eq_ok_iff.mp hf
    exact shows_surfaces s
  · intro i count hrange
    cases freeze_eq_error_iff_firstFault.mp hrange with
    | inverse hinverse => exact hinverse.ne_nodeOutOfRange rfl

def unevenTable : GasTable Float :=
  ⟨[⟨1, 2, 1, 0⟩, ⟨2, 1, 1, 0⟩], [[⟨0, 2, 1⟩], [⟨0, 1, 1⟩, ⟨1, 4, 1⟩]]⟩

theorem freeze_outcome_unevenTable :
    Stored [1, 2] [[⟨0, 2, 1⟩], [⟨0, 1, 1⟩, ⟨1, 4, 1⟩]] (ofTable unevenTable) ∧
    ∃ f, freezeColumns [1, 2] [[⟨0, 2, 1⟩], [⟨0, 1, 1⟩, ⟨1, 4, 1⟩]] = .ok f ∧
      f.Shows (ofTable unevenTable) := by
  have hstored : Stored [1, 2] [[⟨0, 2, 1⟩], [⟨0, 1, 1⟩, ⟨1, 4, 1⟩]] (ofTable unevenTable) :=
    .table unevenTable
  have hfreezable : (ofTable unevenTable).Freezable := by
    constructor <;> decide +kernel
  obtain ⟨⟨-, -, htogether⟩, -, hok, hshows, -⟩ := freeze_outcome hstored
  obtain ⟨f, hf⟩ := hok.mpr hfreezable
  exact ⟨hstored, f, htogether.trans hf, hshows f hf⟩

end BranchSet

end ReservoirGas
