import ReservoirGas.Proofs.Arena
import ReservoirGas.Proofs.Binary64
import ReservoirGas.Proofs.Tables

namespace ReservoirGas

variable {α : Type}

inductive Surface.Draft.Call (α : Type)
  | node (x : α)
  | sample (i : Nat) (y value : α)
  deriving DecidableEq, Repr

namespace Surface.Draft

namespace Call

def run (d : Draft α) : Call α → Except TableError (Draft α)
  | .node x => .ok (d.appendNode x)
  | .sample i y value => d.appendSample i y value

def after (d : Draft α) (c : Call α) : Draft α :=
  match c.run d with
  | .ok d' => d'
  | .error _ => d

def positions : Call α → List α
  | .node x => [x]
  | .sample _ _ _ => []

/-- The sample that the call adds to the node at position `i` of a draft with `count` nodes, if any. -/
def samples (count i : Nat) : Call α → List (α × α)
  | .node _ => []
  | .sample j y value => if j = i ∧ j < count then [(y, value)] else []

end Call

def write (d : Draft α) (calls : List (Call α)) : Draft α :=
  calls.foldl Call.after d

def positions (calls : List (Call α)) : List α :=
  calls.flatMap Call.positions

/-- The samples for the node at position `i` that came when it was there, `count` nodes being there before
the first call. -/
def samples (count i : Nat) : List (Call α) → List (α × α)
  | [] => []
  | c :: calls => c.samples count i ++ samples (count + c.positions.length) i calls

def branch (d : Draft α) (i : Nat) : List (α × α) :=
  (d.nodes[i]?.map Node.branch).getD []

section Calls

variable (d : Draft α) (c : Call α)

theorem Call.run_eq_error_iff {e : TableError} : c.run d = .error e ↔
    ∃ i y value, c = .sample i y value ∧ d.nodes.length ≤ i ∧ e = .nodeOutOfRange i d.nodes.length := by
  cases c with
  | node x => simp [run]
  | sample i y value =>
    rw [run, appendSample]
    constructor
    · intro h
      split at h
      · cases h
      · cases h
        exact ⟨i, y, value, rfl, by omega, rfl⟩
    · intro h
      obtain ⟨j, _, _, hc, hle, rfl⟩ := h
      cases hc
      rw [if_neg (by omega)]

theorem Call.after_of_error {e : TableError} (h : c.run d = .error e) : c.after d = d := by
  rw [after, h]

theorem Call.after_node (x : α) : (Call.node x).after d = d.appendNode x := rfl

theorem Call.after_sample {i : Nat} (y value : α) (h : i < d.nodes.length) :
    (Call.sample i y value).after d =
      ⟨d.nodes.modify i fun n ↦ { n with branch := n.branch ++ [(y, value)] }⟩ := by
  rw [after, run, appendSample, if_pos h]

theorem Call.after_sample_of_le {i : Nat} (y value : α) (h : d.nodes.length ≤ i) :
    (Call.sample i y value).after d = d :=
  after_of_error d _ ((run_eq_error_iff d _).mpr ⟨i, y, value, rfl, h, rfl⟩)

theorem xs_after : (c.after d).xs = d.xs ++ c.positions := by
  cases c with
  | node x => simp [Call.after_node, appendNode, xs, Call.positions]
  | sample i y value =>
    rw [Call.positions, List.append_nil]
    rcases Nat.lt_or_ge i d.nodes.length with h | h
    · rw [Call.after_sample d y value h, xs, xs]
      refine List.ext_getElem? fun j ↦ ?_
      rw [List.getElem?_map, List.getElem?_map, List.getElem?_modify]
      cases d.nodes[j]? <;> simp [apply_ite]
    · rw [Call.after_sample_of_le d y value h]

theorem branch_after (i : Nat) :
    (c.after d).branch i = d.branch i ++ c.samples d.nodes.length i := by
  cases c with
  | node x =>
    rw [Call.samples, List.append_nil, Call.after_node, branch, branch, appendNode]
    rcases Nat.lt_trichotomy i d.nodes.length with h | h | h
    · rw [List.getElem?_append_left h]
    · simp [h]
    · rw [List.getElem?_eq_none (by simpa using Nat.succ_le_of_lt h), List.getElem?_eq_none (by omega)]
  | sample j y value =>
    rw [Call.samples]
    rcases Nat.lt_or_ge j d.nodes.length with h | h
    · rw [Call.after_sample d y value h, branch, branch, List.getElem?_modify]
      by_cases hij : j = i
      · subst hij
        simp [h]
      · simp [hij]
    · rw [Call.after_sample_of_le d y value h, if_neg (by omega), List.append_nil]

variable (calls : List (Call α))

theorem xs_write : (d.write calls).xs = d.xs ++ positions calls := by
  induction calls generalizing d with
  | nil => simp [write, positions]
  | cons c calls ih =>
    rw [write, List.foldl_cons, ← write, ih, xs_after, positions, positions, List.flatMap_cons,
      List.append_assoc]

theorem length_after : (c.after d).nodes.length = d.nodes.length + c.positions.length := by
  have h := congrArg List.length (xs_after d c)
  simpa [xs] using h

theorem branch_write (i : Nat) :
    (d.write calls).branch i = d.branch i ++ samples d.nodes.length i calls := by
  induction calls generalizing d with
  | nil => simp [write, samples]
  | cons c calls ih =>
    rw [write, List.foldl_cons, ← write, ih, branch_after, length_after, samples, List.append_assoc]

theorem xs_write_empty : (write {} calls).xs = positions calls :=
  (xs_write {} calls).trans (List.nil_append _)

theorem branch_write_empty (i : Nat) : (write {} calls).branch i = samples 0 i calls :=
  (branch_write {} calls i).trans (List.nil_append _)

theorem getElem?_nodes_write (i : Nat) :
    (write {} calls).nodes[i]? = (positions calls)[i]?.map fun x ↦ ⟨x, samples 0 i calls⟩ := by
  have hx : (write {} calls).nodes[i]?.map Node.x = (positions calls)[i]? := by
    rw [← List.getElem?_map]
    exact congrArg (·[i]?) (xs_write_empty calls)
  rw [← hx, ← branch_write_empty calls, branch]
  cases (write {} calls).nodes[i]? <;> rfl

theorem length_nodes_write : (write {} calls).nodes.length = (positions calls).length := by
  rw [← xs_write_empty calls, xs, List.length_map]

def sizes (calls : List (Call α)) : List Nat :=
  (List.range (positions calls).length).map fun i ↦ (samples 0 i calls).length

theorem lengths_write : lengths (write {} calls).nodes = sizes calls := by
  refine List.ext_getElem? fun i ↦ ?_
  rw [lengths, sizes, List.getElem?_map, getElem?_nodes_write, List.getElem?_map, Option.map_map]
  rcases Nat.lt_or_ge i (positions calls).length with h | h
  · rw [List.getElem?_range h, List.getElem?_eq_getElem h]
    rfl
  · rw [List.getElem?_eq_none h, List.getElem?_eq_none (by simpa using h)]
    rfl

end Calls

def view (calls : List (Call α)) : View α where
  size := (positions calls).length
  xs := positions calls
  branchYs i := (samples 0 i calls).map Prod.fst
  branchValues i := (samples 0 i calls).map Prod.snd
  sampleCount := (sizes calls).sum
  minBranchSize := (sizes calls).min?.getD 0

theorem view_write (calls : List (Call α)) : Surface.view ⟨(write {} calls).nodes⟩ = view calls := by
  have hbranch : ∀ i, Surface.branch ⟨(write {} calls).nodes⟩ i = samples 0 i calls := branch_write_empty calls
  have hxs : Surface.xs ⟨(write {} calls).nodes⟩ = positions calls := xs_write_empty calls
  have hsize : Surface.size ⟨(write {} calls).nodes⟩ = (positions calls).length := length_nodes_write calls
  simp only [Surface.view, view, View.mk.injEq, funext_iff, hsize, hxs, Surface.branchYs,
    Surface.branchValues, hbranch, Surface.sampleCount_eq_sum, lengths_write, true_and, implies_true]
  rw [← lengths_write]
  rfl

variable [Scalar α]

/-- The calls write a surface: there is a node, the positions are finite and increase, and so do the inner
coordinates of each node, which has a sample and finite samples only. -/
structure Complete (calls : List (Call α)) : Prop where
  ne_nil : positions calls ≠ []
  finite : Axis.Finite (positions calls)
  increasing : Axis.Increasing (positions calls)
  branch_ne_nil : ∀ i < (positions calls).length, samples 0 i calls ≠ []
  branch_finite : ∀ i < (positions calls).length, ∀ s ∈ samples 0 i calls,
    Scalar.isFinite s.1 = true ∧ Scalar.isFinite s.2 = true
  branch_increasing : ∀ i < (positions calls).length, Axis.Increasing ((samples 0 i calls).map Prod.fst)

theorem sound_write_iff (calls : List (Call α)) :
    Surface.Sound ⟨(write {} calls).nodes⟩ ↔ Complete calls := by
  have hxs : Surface.xs ⟨(write {} calls).nodes⟩ = positions calls := xs_write_empty calls
  have hnil : (write {} calls).nodes ≠ [] ↔ positions calls ≠ [] := by
    rw [← List.length_pos_iff, ← List.length_pos_iff, length_nodes_write]
  have hnode (i : Nat) (hi : i < (positions calls).length) :
      (⟨(positions calls)[i], samples 0 i calls⟩ : Node α) ∈ (write {} calls).nodes := by
    apply List.mem_of_getElem? (i := i)
    rw [getElem?_nodes_write, List.getElem?_eq_getElem hi]
    rfl
  constructor
  · intro h
    exact ⟨hnil.mp h.ne_nil, hxs ▸ h.finite, hxs ▸ h.increasing, fun i hi ↦ (h.node _ (hnode i hi)).ne_nil,
      fun i hi ↦ (h.node _ (hnode i hi)).finite, fun i hi ↦ (h.node _ (hnode i hi)).increasing⟩
  · intro h
    refine ⟨hnil.mpr h.ne_nil, hxs ▸ h.finite, hxs ▸ h.increasing, fun n hn ↦ ?_⟩
    obtain ⟨i, hi⟩ := List.mem_iff_getElem?.mp hn
    rw [getElem?_nodes_write, Option.map_eq_some_iff] at hi
    obtain ⟨x, hx, rfl⟩ := hi
    obtain ⟨hlt, -⟩ := List.getElem?_eq_some_iff.mp hx
    exact ⟨h.branch_ne_nil i hlt, h.branch_finite i hlt, h.branch_increasing i hlt⟩

variable [Scalar.Ordered α]

/-- What the calls give is accepted exactly if they are complete, it then shows what they have written, no
more and no less, and two of these are equal exactly if they show the same. -/
structure Faithful {β : Type} [BEq β] (outcome : List (Call α) → Except TableError β)
    (view : β → View α) : Prop where
  exists_ok_iff (calls : List (Call α)) : (∃ b, outcome calls = .ok b) ↔ Complete calls
  view_eq (calls : List (Call α)) (b : β) : outcome calls = .ok b → view b = Draft.view calls
  beq_iff (calls calls' : List (Call α)) (b b' : β) : outcome calls = .ok b → outcome calls' = .ok b' →
    ((b == b') = true ↔ (Draft.view calls).Same (Draft.view calls'))

theorem faithful_build : Faithful (fun calls : List (Call α) ↦ (write {} calls).build) Surface.view := by
  have hview {calls : List (Call α)} {s : Surface α} (h : (write {} calls).build = .ok s) :
      s.view = view calls := by
    obtain ⟨nodes⟩ := s
    obtain ⟨-, rfl⟩ := build_eq_ok_iff.mp h
    exact view_write calls
  refine ⟨fun calls ↦ ?_, fun calls s ↦ hview, fun calls calls' s s' hs hs' ↦ ?_⟩
  · rw [← sound_write_iff]
    constructor
    · intro h
      obtain ⟨⟨nodes⟩, hs⟩ := h
      obtain ⟨hsound, rfl⟩ := build_eq_ok_iff.mp hs
      exact hsound
    · intro h
      exact ⟨_, build_eq_ok_iff.mpr ⟨h, rfl⟩⟩
  · rw [beq_iff_same, hview hs, hview hs']

omit [Scalar.Ordered α] in
theorem pack_eq_ok_iff {d : Draft α} {a : Arena α} :
    d.pack = .ok a ↔ ∃ s, d.build = .ok s ∧ s.arena = a := by
  rw [pack_eq]
  cases d.build <;> simp [Except.map]

theorem faithful_pack : Faithful (fun calls : List (Call α) ↦ (write {} calls).pack) Arena.view := by
  refine ⟨fun calls ↦ ?_, fun calls a ha ↦ ?_, fun calls calls' a a' ha ha' ↦ ?_⟩
  · rw [← faithful_build.exists_ok_iff]
    constructor
    · intro h
      obtain ⟨a, ha⟩ := h
      obtain ⟨s, hs, -⟩ := pack_eq_ok_iff.mp ha
      exact ⟨s, hs⟩
    · intro h
      obtain ⟨s, hs⟩ := h
      exact ⟨s.arena, pack_eq_ok_iff.mpr ⟨s, hs, rfl⟩⟩
  · obtain ⟨s, hs, rfl⟩ := pack_eq_ok_iff.mp ha
    exact (Arena.view_arena s).trans (faithful_build.view_eq calls s hs)
  · obtain ⟨s, hs, rfl⟩ := pack_eq_ok_iff.mp ha
    obtain ⟨s', hs', rfl⟩ := pack_eq_ok_iff.mp ha'
    rw [Arena.arena_beq_arena]
    exact faithful_build.beq_iff calls calls' s s' hs hs'

/-- A draft can be written by any calls, in any order: as a surface and as one block it is accepted exactly if
the calls are complete, and holds what they have written. A call is refused only if it is a sample for a node
that is not there, and then it changes nothing. -/
theorem written_in_any_order :
    Faithful (fun calls : List (Call Float) ↦ (write {} calls).build) Surface.view ∧
    Faithful (fun calls : List (Call Float) ↦ (write {} calls).pack) Arena.view ∧
    ∀ (calls : List (Call Float)) (c : Call Float) (e : TableError),
      (c.run (write {} calls) = .error e ↔ ∃ i y value, c = .sample i y value ∧
        (positions calls).length ≤ i ∧ e = .nodeOutOfRange i (positions calls).length) ∧
      (c.run (write {} calls) = .error e → write {} (calls ++ [c]) = write {} calls) := by
  refine ⟨faithful_build, faithful_pack, fun calls c e ↦ ⟨?_, fun he ↦ ?_⟩⟩
  · rw [Call.run_eq_error_iff, length_nodes_write]
  · rw [write, List.foldl_append, ← write]
    exact Call.after_of_error _ c he

def inTurns : List (Call Float) :=
  [.node 1, .sample 0 2 5, .sample 1 3 9, .node 4, .sample 1 6 7, .sample 0 8 6]

theorem written_inTurns :
    (∃ s a, (write {} inTurns).build = .ok s ∧ (write {} inTurns).pack = .ok a ∧
      s.view = view inTurns ∧ a.view = view inTurns) ∧
    (view inTurns).branchValues 0 = [5, 6] ∧ (view inTurns).branchValues 1 = [7] ∧
    write {} (inTurns.take 3) = write {} (inTurns.take 2) := by
  have hcomplete : Complete inTurns :=
    ⟨by decide +kernel, by decide +kernel, by decide +kernel, by decide +kernel, by decide +kernel,
      by decide +kernel⟩
  have hrefused : Call.run (write {} (inTurns.take 2)) (.sample 1 3 9) = .error (.nodeOutOfRange 1 1) := rfl
  obtain ⟨hbuild, hpack, hcall⟩ := written_in_any_order
  obtain ⟨s, hs⟩ := (hbuild.exists_ok_iff inTurns).mpr hcomplete
  obtain ⟨a, ha⟩ := (hpack.exists_ok_iff inTurns).mpr hcomplete
  exact ⟨⟨s, a, hs, ha, hbuild.view_eq inTurns s hs, hpack.view_eq inTurns a ha⟩, rfl, rfl,
    (hcall (inTurns.take 2) _ _).2 hrefused⟩

end Surface.Draft

end ReservoirGas
