import ReservoirGas.Proofs.Master

namespace ReservoirGas.BranchSet

variable {α : Type} [Scalar α]

inductive NodeFault (family : Family) (region : Region.Id) (raw : BranchSet α) (i : Nat) :
    PropertyError α → Prop
  | noMaster (short : raw.branchSize i < 2) (none : ∀ m, i < m → raw.branchSize m < 2) :
    NodeFault family region raw i (.extrapolationImpossible family region i)
  | noProlongation {m : Nat} {e : NumericError α} (short : raw.branchSize i < 2)
    (master : raw.IsMaster i m) (failed : GasSample.prolong (raw.branch i) (raw.branch m) = .error e) :
    NodeFault family region raw i (.invalidNumber e)

variable {family : Family} {region : Region.Id} {raw : BranchSet α} {c c' : Completed α} {i m k : Nat}

theorem completeNode_of_two_le (h : 2 ≤ raw.branchSize i) :
    completeNode family region raw c i = .ok c :=
  if_pos h

theorem completeNode_of_noMaster (short : raw.branchSize i < 2)
    (none : ∀ m, i < m → raw.branchSize m < 2) :
    completeNode family region raw c i = .error (.extrapolationImpossible family region i) := by
  rw [completeNode, if_neg (by omega), master?_eq_none_iff.mpr none]

theorem completeNode_of_prolong {added : List (GasSample α)} (short : raw.branchSize i < 2)
    (master : raw.IsMaster i m) (hp : GasSample.prolong (raw.branch i) (raw.branch m) = .ok added) :
    completeNode family region raw c i =
      .ok ⟨c.branches.prolongNode i added, c.extensions ++ [⟨i, m, added.length⟩]⟩ := by
  have hsize : ¬ 1 < raw.branchSize i := by omega
  simp only [completeNode, if_neg hsize, master?_eq_some_iff.mpr master, hp]

theorem completeNode_of_noProlongation {e : NumericError α} (short : raw.branchSize i < 2)
    (master : raw.IsMaster i m) (hp : GasSample.prolong (raw.branch i) (raw.branch m) = .error e) :
    completeNode family region raw c i = .error (.invalidNumber e) := by
  have hsize : ¬ 1 < raw.branchSize i := by omega
  simp only [completeNode, if_neg hsize, master?_eq_some_iff.mpr master, hp]

theorem completeNode_eq_ok_iff :
    completeNode family region raw c i = .ok c' ↔
      2 ≤ raw.branchSize i ∧ c' = c ∨
      raw.branchSize i < 2 ∧ ∃ m added, raw.IsMaster i m ∧
        GasSample.prolong (raw.branch i) (raw.branch m) = .ok added ∧
        c' = ⟨c.branches.prolongNode i added, c.extensions ++ [⟨i, m, added.length⟩]⟩ := by
  constructor
  · intro h
    by_cases hsize : 2 ≤ raw.branchSize i
    · rw [completeNode_of_two_le hsize] at h
      cases h
      exact .inl ⟨hsize, rfl⟩
    · have hshort : raw.branchSize i < 2 := by omega
      rcases exists_isMaster_or raw i with ⟨m, hm⟩ | hnone
      · cases hp : GasSample.prolong (raw.branch i) (raw.branch m) with
        | error e =>
          rw [completeNode_of_noProlongation hshort hm hp] at h
          cases h
        | ok added =>
          rw [completeNode_of_prolong hshort hm hp] at h
          cases h
          exact .inr ⟨hshort, m, added, hm, hp, rfl⟩
      · rw [completeNode_of_noMaster hshort hnone] at h
        cases h
  · intro h
    rcases h with ⟨hsize, rfl⟩ | ⟨hshort, m, added, hm, hp, rfl⟩
    · exact completeNode_of_two_le hsize
    · exact completeNode_of_prolong hshort hm hp

/-- Whether and why a node fails does not depend on what became of the nodes before it. -/
theorem completeNode_eq_error_iff {e : PropertyError α} :
    completeNode family region raw c i = .error e ↔ raw.NodeFault family region i e := by
  constructor
  · intro h
    by_cases hsize : 2 ≤ raw.branchSize i
    · rw [completeNode_of_two_le hsize] at h
      cases h
    · have hshort : raw.branchSize i < 2 := by omega
      rcases exists_isMaster_or raw i with ⟨m, hm⟩ | hnone
      · cases hp : GasSample.prolong (raw.branch i) (raw.branch m) with
        | error e' =>
          rw [completeNode_of_noProlongation hshort hm hp] at h
          cases h
          exact .noProlongation hshort hm hp
        | ok added =>
          rw [completeNode_of_prolong hshort hm hp] at h
          cases h
      · rw [completeNode_of_noMaster hshort hnone] at h
        cases h
        exact .noMaster hshort hnone
  · intro h
    cases h with
    | noMaster hshort hnone => exact completeNode_of_noMaster hshort hnone
    | noProlongation hshort hm hp => exact completeNode_of_noProlongation hshort hm hp

/-- The first `k` nodes of `raw` are completed in `c` and the others are as they were. -/
structure Progress (raw : BranchSet α) (k : Nat) (c : Completed α) : Prop where
  pressures : c.branches.pressures = raw.pressures
  unchanged : ∀ i, k ≤ i ∨ 2 ≤ raw.branchSize i → c.branches.branch i = raw.branch i
  prolonged : ∀ i < k, raw.branchSize i < 2 → ∃ m added, raw.IsMaster i m ∧
    GasSample.prolong (raw.branch i) (raw.branch m) = .ok added ∧
    c.branches.branch i = raw.branch i ++ added
  extended : c.extensions.map Extension.node = (List.range k).filter fun i ↦ raw.branchSize i < 2
  extension : ∀ x ∈ c.extensions, raw.IsMaster x.node x.master ∧
    x.added = raw.branchSize x.master - 1

theorem Progress.start (raw : BranchSet α) : raw.Progress 0 ⟨raw, []⟩ where
  pressures := rfl
  unchanged _ _ := rfl
  prolonged _ h := absurd h (Nat.not_lt_zero _)
  extended := rfl
  extension _ h := absurd h List.not_mem_nil

theorem Progress.skip (h : raw.Progress k c) (hsize : 2 ≤ raw.branchSize k) :
    raw.Progress (k + 1) c where
  pressures := h.pressures
  unchanged i hi := h.unchanged i (by omega)
  prolonged i hi hshort := by
    rcases Nat.lt_succ_iff_lt_or_eq.mp hi with hi | rfl
    · exact h.prolonged i hi hshort
    · omega
  extended := by
    rw [h.extended, List.range_succ, List.filter_append, List.filter_cons_of_neg, List.filter_nil,
      List.append_nil]
    rw [decide_eq_true_eq]
    omega
  extension := h.extension

theorem Progress.prolong {added : List (GasSample α)} (h : raw.Progress k c) (hk : k < raw.size)
    (hshort : raw.branchSize k < 2) (hm : raw.IsMaster k m)
    (hp : GasSample.prolong (raw.branch k) (raw.branch m) = .ok added) :
    raw.Progress (k + 1) ⟨c.branches.prolongNode k added, c.extensions ++ [⟨k, m, added.length⟩]⟩ where
  pressures := (pressures_prolongNode _ _ _).trans h.pressures
  unchanged i hi := by
    have hki : k ≠ i := by
      intro hki
      subst hki
      omega
    exact (branch_prolongNode_ne hki added).trans (h.unchanged i (by omega))
  prolonged i hi hi' := by
    have hk' : k < c.branches.size := by
      rw [← length_pressures, h.pressures, length_pressures]
      exact hk
    rcases Nat.lt_succ_iff_lt_or_eq.mp hi with hi | rfl
    · obtain ⟨m', added', hm', hp', hb⟩ := h.prolonged i hi hi'
      exact ⟨m', added', hm', hp', (branch_prolongNode_ne (by omega) added).trans hb⟩
    · refine ⟨m, added, hm, hp, ?_⟩
      rw [branch_prolongNode_self hk' added, h.unchanged i (.inl (Nat.le_refl i))]
  extended := by
    rw [List.map_append, h.extended, List.range_succ, List.filter_append, List.filter_cons_of_pos,
      List.filter_nil]
    · rfl
    · exact decide_eq_true hshort
  extension x hx := by
    rcases List.mem_append.mp hx with hx | hx
    · exact h.extension x hx
    · cases List.mem_singleton.mp hx
      exact ⟨hm, GasSample.length_prolong hp⟩

theorem Progress.step (h : raw.Progress k c) (hk : k < raw.size)
    (hc : completeNode family region raw c k = .ok c') : raw.Progress (k + 1) c' := by
  rcases completeNode_eq_ok_iff.mp hc with ⟨hsize, rfl⟩ | ⟨hshort, m, added, hm, hp, rfl⟩
  · exact h.skip hsize
  · exact h.prolong hk hshort hm hp

/-- A run over the first `k` nodes completes them all, or it ends with the first node that fails. -/
theorem foldlM_completeNode (family : Family) (region : Region.Id) (raw : BranchSet α) (k : Nat)
    (hk : k ≤ raw.size) :
    (∃ c, (List.range k).foldlM (completeNode family region raw) ⟨raw, []⟩ = .ok c ∧
      raw.Progress k c ∧ ∀ i < k, ∀ e, ¬ raw.NodeFault family region i e) ∨
    ∃ e, (List.range k).foldlM (completeNode family region raw) ⟨raw, []⟩ = .error e ∧
      ∃ i < k, raw.NodeFault family region i e ∧ ∀ j < i, ∀ e', ¬ raw.NodeFault family region j e' := by
  -- the invariant is `Progress`; a failure at node `k` is the first because none came before
  induction k with
  | zero => exact .inl ⟨_, rfl, .start raw, fun i hi ↦ absurd hi (Nat.not_lt_zero i)⟩
  | succ k ih =>
    rw [List.range_succ, List.foldlM_append]
    rcases ih (by omega) with ⟨c, hc, hprogress, hgood⟩ | ⟨e, he, i, hi, hfault, hgood⟩
    · rw [hc]
      cases hstep : completeNode family region raw c k with
      | ok c' =>
        refine .inl ⟨c', ?_, hprogress.step (by omega) hstep, fun i hi e hfault ↦ ?_⟩
        · simp [bind, Except.bind, hstep, pure, Except.pure]
        · rcases Nat.lt_succ_iff_lt_or_eq.mp hi with hi | rfl
          · exact hgood i hi e hfault
          · rw [completeNode_eq_error_iff.mpr hfault] at hstep
            cases hstep
      | error e =>
        refine .inr ⟨e, ?_, k, Nat.lt_succ_self k, completeNode_eq_error_iff.mp hstep, hgood⟩
        simp [bind, Except.bind, hstep]
    · refine .inr ⟨e, ?_, i, by omega, hfault, hgood⟩
      rw [he]
      rfl

structure Completable (raw : BranchSet α) : Prop where
  ne_nil : ∀ i < raw.size, raw.branch i ≠ []
  later : ∀ i, raw.branchSize i = 1 → ∃ m, i < m ∧ 2 ≤ raw.branchSize m
  prolong : ∀ i m, raw.branchSize i = 1 → raw.IsMaster i m →
    ∃ added, GasSample.prolong (raw.branch i) (raw.branch m) = .ok added

theorem Completable.branchSize_pos (h : raw.Completable) (hi : i < raw.size) : 0 < raw.branchSize i :=
  List.length_pos_of_ne_nil (h.ne_nil i hi)

/-- `c` is `raw` with every single sample prolonged, and the record of it. -/
structure Completed.Completes (c : Completed α) (raw : BranchSet α) : Prop where
  pressures : c.branches.pressures = raw.pressures
  supplied : ∀ i, 2 ≤ raw.branchSize i → c.branches.branch i = raw.branch i
  prolonged : ∀ i, raw.branchSize i = 1 → ∃ m added, raw.IsMaster i m ∧
    GasSample.prolong (raw.branch i) (raw.branch m) = .ok added ∧
    c.branches.branch i = raw.branch i ++ added ∧ c.branches.branchSize i = raw.branchSize m
  extended : c.extensions.map Extension.node = (List.range raw.size).filter fun i ↦ raw.branchSize i = 1
  extension : ∀ x ∈ c.extensions, raw.IsMaster x.node x.master ∧
    x.added = raw.branchSize x.master - 1

theorem Completed.Completes.size_eq (h : c.Completes raw) : c.branches.size = raw.size := by
  rw [← length_pressures, h.pressures, length_pressures]

theorem completable_iff (family : Family) (region : Region.Id) (raw : BranchSet α) :
    raw.Completable ↔ ∀ i < raw.size, ∀ e, ¬ raw.NodeFault family region i e := by
  constructor
  · intro h i hi e hfault
    have hpos := h.branchSize_pos hi
    cases hfault with
    | noMaster hshort hnone =>
      obtain ⟨m, him, hm⟩ := h.later i (by omega)
      have hm' := hnone m him
      omega
    | noProlongation hshort hm hp =>
      obtain ⟨added, hp'⟩ := h.prolong i _ (by omega) hm
      rw [hp] at hp'
      cases hp'
  · intro h
    refine ⟨fun i hi hnil ↦ ?_, fun i hi ↦ ?_, fun i m hi hm ↦ ?_⟩
    · have hshort : raw.branchSize i < 2 := by
        rw [branchSize, hnil]
        exact Nat.zero_lt_two
      rcases exists_isMaster_or raw i with ⟨m, hm⟩ | hnone
      · exact h i hi _ (.noProlongation hshort hm (by rw [hnil]; rfl))
      · exact h i hi _ (.noMaster hshort hnone)
    · rcases exists_isMaster_or raw i with ⟨m, hm⟩ | hnone
      · exact ⟨m, hm.lt, hm.two_le⟩
      · exact absurd (.noMaster (by omega) hnone) (h i (lt_size_of_branchSize (by omega)) _)
    · cases hp : GasSample.prolong (raw.branch i) (raw.branch m) with
      | ok added => exact ⟨added, rfl⟩
      | error e =>
        exact absurd (.noProlongation (by omega) hm hp) (h i (lt_size_of_branchSize (by omega)) _)

theorem Progress.completes (h : raw.Progress raw.size c) (hraw : raw.Completable) :
    c.Completes raw where
  pressures := h.pressures
  supplied i hi := h.unchanged i (.inr hi)
  prolonged i hi := by
    obtain ⟨m, added, hm, hp, hb⟩ := h.prolonged i (lt_size_of_branchSize (by omega)) (by omega)
    refine ⟨m, added, hm, hp, hb, ?_⟩
    have hlen := GasSample.length_prolong hp
    have htwo := hm.two_le
    simp only [branchSize] at hi htwo ⊢
    rw [hb, List.length_append, hlen, hi]
    omega
  extended := by
    rw [h.extended]
    apply List.filter_congr
    intro i hi
    have hpos := hraw.branchSize_pos (List.mem_range.mp hi)
    refine decide_eq_decide.mpr ?_
    omega
  extension := h.extension

theorem Completed.Completes.isPrefix (h : c.Completes raw) (hraw : raw.Completable)
    (hi : i < raw.size) : raw.branch i <+: c.branches.branch i := by
  have hpos := hraw.branchSize_pos hi
  by_cases htwo : 2 ≤ raw.branchSize i
  · exact (h.supplied i htwo).symm ▸ List.prefix_rfl
  · obtain ⟨m, added, -, -, hb, -⟩ := h.prolonged i (by omega)
    rw [hb]
    exact List.prefix_append _ _

theorem Completed.Completes.two_le (h : c.Completes raw) (hraw : raw.Completable)
    (hi : i < raw.size) : 2 ≤ c.branches.branchSize i := by
  have hpos := hraw.branchSize_pos hi
  by_cases htwo : 2 ≤ raw.branchSize i
  · rw [branchSize, h.supplied i htwo]
    exact htwo
  · obtain ⟨m, added, hm, -, -, hsize⟩ :=
      h.prolonged i (by omega)
    rw [hsize]
    exact hm.two_le

theorem Completed.Completes.branch_cases (h : c.Completes raw) (hne : ∀ i < raw.size, raw.branch i ≠ [])
    (i : Nat) :
    c.branches.branch i = raw.branch i ∨ ∃ m last added, raw.IsMaster i m ∧ raw.branch i = [last] ∧
      GasSample.followAll last (raw.branch m) = .ok added ∧ c.branches.branch i = last :: added := by
  rcases Nat.lt_or_ge i raw.size with hi | hi
  · have hpos : 0 < raw.branchSize i := List.length_pos_of_ne_nil (hne i hi)
    by_cases htwo : 2 ≤ raw.branchSize i
    · exact .inl (h.supplied i htwo)
    · have hone : raw.branchSize i = 1 := by omega
      obtain ⟨m, added, hm, hadded, hbranch, -⟩ := h.prolonged i hone
      obtain ⟨last, hlast⟩ := List.length_eq_one_iff.mp hone
      rw [hlast] at hadded hbranch
      exact .inr ⟨m, last, added, hm, hlast, hadded, hbranch⟩
  · rw [branch_eq_nil_of_size_le hi, branch_eq_nil_of_size_le (h.size_eq ▸ hi)]
    exact .inl rfl

theorem complete_cases (family : Family) (region : Region.Id) (raw : BranchSet α) :
    (∃ c, raw.complete family region = .ok c ∧ raw.Completable ∧ c.Completes raw) ∨
    ∃ e, raw.complete family region = .error e ∧ ∃ i < raw.size,
      raw.NodeFault family region i e ∧ ∀ j < i, ∀ e', ¬ raw.NodeFault family region j e' := by
  rcases foldlM_completeNode family region raw raw.size (Nat.le_refl _) with
    ⟨c, hc, hprogress, hgood⟩ | ⟨e, he, i, hi, hfault, hgood⟩
  · have hraw := (completable_iff family region raw).mpr hgood
    exact .inl ⟨c, hc, hraw, hprogress.completes hraw⟩
  · exact .inr ⟨e, he, i, hi, hfault, hgood⟩

theorem completes_of_complete (h : raw.complete family region = .ok c) :
    raw.Completable ∧ c.Completes raw := by
  rcases complete_cases family region raw with ⟨c', hc, hraw, hcompletes⟩ | ⟨e, he, -⟩
  · rw [h] at hc
    cases hc
    exact ⟨hraw, hcompletes⟩
  · rw [h] at he
    cases he

/-- A branch set is completed exactly if no branch is empty, every single sample has a later node with
more, and can be prolonged from the first of these. Then every node has its supplied branch, followed
by what its master gives if it was a single sample; otherwise the first node that fails is reported. -/
theorem complete_outcome (family : Family) (region : Region.Id) (raw : BranchSet α) :
    ((∃ c, raw.complete family region = .ok c) ↔ raw.Completable) ∧
    (∀ c, raw.complete family region = .ok c → c.Completes raw) ∧
    ∀ e, raw.complete family region = .error e → ∃ i < raw.size,
      raw.NodeFault family region i e ∧ ∀ j < i, ∀ e', ¬ raw.NodeFault family region j e' := by
  rcases complete_cases family region raw with ⟨c, hc, hraw, hcompletes⟩ | ⟨e, he, i, hi, hfault, hgood⟩
  · refine ⟨⟨fun _ ↦ hraw, fun _ ↦ ⟨c, hc⟩⟩, fun c' hc' ↦ ?_, fun e he ↦ ?_⟩
    · rw [hc] at hc'
      cases hc'
      exact hcompletes
    · rw [hc] at he
      cases he
  · refine ⟨⟨fun ⟨c, hc⟩ ↦ ?_, fun hraw ↦ ?_⟩, fun c hc ↦ ?_, fun e' he' ↦ ?_⟩
    · rw [he] at hc
      cases hc
    · exact absurd hfault ((completable_iff family region raw).mp hraw i hi e)
    · rw [he] at hc
      cases hc
    · rw [he] at he'
      cases he'
      exact ⟨i, hi, hfault, hgood⟩

end ReservoirGas.BranchSet
