import ReservoirGas.Proofs.Writing

namespace ReservoirGas.Surface

variable {α : Type} [Scalar α]

structure Draft.SoundAxis (d : Draft α) : Prop where
  ne_nil : d.nodes ≠ []
  finite : Axis.Finite d.xs
  increasing : Axis.Increasing d.xs

/-- Both drafts have a fault, and they are the same as far as the first one: the same unsound outer axis, or sound
outer axes and the same nodes up to one that is not sound. -/
inductive Draft.AgreeToFault (d d' : Draft α) : Prop
  | axis (xs : d.xs = d'.xs) (fault : ¬ d.SoundAxis)
  | node {i : Nat} (axis : d.SoundAxis) (axis' : d'.SoundAxis) (nodes : d.nodes.take i = d'.nodes.take i)
    (fault : ∃ n ∈ d.nodes.take i, ¬ n.Sound)

variable {d d' : Draft α} {e : TableError}

theorem Draft.SoundAxis.of_xs_eq (h : d.SoundAxis) (hxs : d.xs = d'.xs) : d'.SoundAxis := by
  have hne : d.xs ≠ [] := mt List.map_eq_nil_iff.mp h.ne_nil
  rw [hxs] at hne
  exact ⟨mt List.map_eq_nil_iff.mpr hne, hxs ▸ h.finite, hxs ▸ h.increasing⟩

theorem Draft.AgreeToFault.symm (h : d.AgreeToFault d') : d'.AgreeToFault d := by
  cases h with
  | axis hxs hfault => exact .axis hxs.symm fun h ↦ hfault (h.of_xs_eq hxs.symm)
  | node haxis haxis' hnodes hfault => exact .node haxis' haxis hnodes.symm (hnodes ▸ hfault)

theorem Node.FirstFault.not_sound {n : Node α} {index : Nat} (h : n.FirstFault index e) : ¬ n.Sound := by
  intro hsound
  cases h with
  | empty hempty => exact hsound.ne_nil hempty
  | sample hs hvalue => exact hvalue (hsound.finite _ hs)
  | order _ hunordered => exact hunordered hsound.increasing

theorem Draft.FirstFault.exists_node (h : d.FirstFault e) (haxis : d.SoundAxis) {i : Nat}
    (hfault : ∃ n ∈ d.nodes.take i, ¬ n.Sound) : ∃ j n, j < i ∧ d.nodes[j]? = some n ∧
      (∀ n' ∈ d.nodes.take j, n'.Sound) ∧ n.FirstFault j e := by
  cases h with
  | noNodes hempty => exact absurd hempty haxis.ne_nil
  | position hfirst => exact absurd haxis.finite hfirst.not_finite
  | order _ hdrop => exact absurd haxis.increasing hdrop.not_increasing
  | @node j n _ _ _ hn hbefore hfirst =>
    refine ⟨j, n, ?_, hn, hbefore, hfirst⟩
    by_contra hle
    obtain ⟨n', hmem, hunsound⟩ := hfault
    exact hunsound (hbefore n' ((List.take_subset_take_left _ (by omega)) hmem))

theorem Draft.FirstFault.of_agreeToFault (h : d.FirstFault e) (hagree : d.AgreeToFault d') : d'.FirstFault e := by
  cases hagree with
  | axis hxs hfault =>
    cases h with
    | noNodes hempty =>
      refine .noNodes ?_
      rw [← List.map_eq_nil_iff (f := Node.x)] at hempty ⊢
      exact hxs.symm.trans hempty
    | position hfirst => exact .position (hxs ▸ hfirst)
    | order hfinite hdrop => exact .order (hxs ▸ hfinite) (hxs ▸ hdrop)
    | node hfinite hincreasing hn _ _ =>
      exact absurd ⟨List.ne_nil_of_mem (List.mem_of_getElem? hn), hfinite, hincreasing⟩ hfault
  | @node i haxis haxis' hnodes hfault =>
    obtain ⟨j, n, hj, hn, hbefore, hfirst⟩ := h.exists_node haxis hfault
    have hn' : d'.nodes[j]? = some n := by
      rw [← List.getElem?_take_of_lt hj, ← hnodes, List.getElem?_take_of_lt hj, hn]
    have htake : d'.nodes.take j = d.nodes.take j := by
      rw [← min_eq_left hj.le, ← List.take_take, ← List.take_take, hnodes]
    exact .node haxis'.finite haxis'.increasing hn' (htake ▸ hbefore) hfirst

variable [Scalar.Ordered α]

theorem Arena.pushNode_eq_error_iff {a : Arena α} {index : Nat} {n : Node α} :
    a.pushNode index n = .error e ↔ n.FirstFault index e := by
  rw [pushNode_eq, accept_eq_error_iff, Node.head?_faults_eq_some_iff]

theorem Draft.pack_eq_error_iff : d.pack = .error e ↔ d.FirstFault e := by
  rw [← build_eq_error_iff, pack_eq]
  cases d.build <;> simp [Except.map]

/-- A draft is refused with its first fault, copied into one block or not. Drafts that agree as far as their first
fault are refused alike, and a node is refused for its own first fault alone, whatever the block holds that it is
copied into. -/
theorem Draft.refused_for_firstFault :
    (∀ (d : Draft Float) (e : TableError),
      (d.pack = .error e ↔ d.FirstFault e) ∧ (d.build = .error e ↔ d.FirstFault e)) ∧
    (∀ (d d' : Draft Float) (e : TableError), d.AgreeToFault d' → (d.pack = .error e ↔ d'.pack = .error e)) ∧
    ∀ (a : Arena Float) (index : Nat) (n : Node Float) (e : TableError),
      a.pushNode index n = .error e ↔ n.FirstFault index e := by
  refine ⟨fun d e ↦ ⟨pack_eq_error_iff, build_eq_error_iff⟩, fun d d' e h ↦ ?_,
    fun a index n e ↦ Arena.pushNode_eq_error_iff⟩
  rw [pack_eq_error_iff, pack_eq_error_iff]
  exact ⟨fun hd ↦ hd.of_agreeToFault h, fun hd ↦ hd.of_agreeToFault h.symm⟩

def fallingSecond : Draft Float :=
  ⟨[⟨1, [(5, 1), (6, 1)]⟩, ⟨2, [(0, 1), (3, 2), (3, 4)]⟩, ⟨3, []⟩]⟩

theorem refused_fallingSecond : fallingSecond.pack = .error (.nonMonotonic "inner axis" 1) ∧
    (⟨fallingSecond.nodes.take 2⟩ : Draft Float).pack = .error (.nonMonotonic "inner axis" 1) := by
  obtain ⟨hrefused, hagree, -⟩ := Draft.refused_for_firstFault
  have haxis : fallingSecond.SoundAxis := ⟨by decide, by decide +kernel, by decide +kernel⟩
  have haxis' : (⟨fallingSecond.nodes.take 2⟩ : Draft Float).SoundAxis :=
    ⟨by decide, by decide +kernel, by decide +kernel⟩
  have hfirst : Node.Sound (⟨1, [(5, 1), (6, 1)]⟩ : Node Float) :=
    ⟨by decide, by decide +kernel, by decide +kernel⟩
  have hsecond : Node.FirstFault 1 (⟨2, [(0, 1), (3, 2), (3, 4)]⟩ : Node Float) (.nonMonotonic "inner axis" 1) :=
    .order (by decide +kernel) (by decide +kernel)
  have hfault : fallingSecond.FirstFault (.nonMonotonic "inner axis" 1) :=
    .node (i := 1) haxis.finite haxis.increasing rfl (List.forall_mem_singleton.mpr hfirst) hsecond
  have hpack := (hrefused _ _).1.mpr hfault
  refine ⟨hpack, (hagree _ _ _ (.node (i := 2) haxis haxis' rfl ?_)).mp hpack⟩
  exact ⟨_, List.mem_of_getLast? rfl, hsecond.not_sound⟩

end ReservoirGas.Surface
