import ReservoirGas.Proofs.Outcome
import ReservoirGas.Tables
import Mathlib.Algebra.BigOperators.Group.List.Lemmas
import Mathlib.Algebra.GroupWithZero.Nat

namespace ReservoirGas

open Outcome

section Folds

variable {ε β ι : Type}

/-- A fold whose steps are checked is the fold without checks, accepted if no step has a fault. -/
theorem foldlM_accept {faults : ι → List ε} {step : β → ι → β} (items : List ι) (b : β) :
    items.foldlM (fun b i ↦ accept (faults i) (step b i)) b =
      accept (items.flatMap faults) (items.foldl step b) := by
  induction items generalizing b with
  | nil => rfl
  | cons i items ih =>
    rw [List.foldlM_cons, List.flatMap_cons, List.foldl_cons]
    cases faults i with
    | nil => exact ih (step b i)
    | cons e r => rfl

theorem accept_faultUnless_append {test : Bool} {e : ε} {r : List ε} {b : β} :
    accept (faultUnless test e ++ r) b = if test then accept r b else .error e := by
  cases test <;> rfl

end Folds

structure Surface.View (α : Type) where
  size : Nat
  xs : List α
  branchYs : Nat → List α
  branchValues : Nat → List α
  sampleCount : Nat
  minBranchSize : Nat

structure Surface.View.Same {α : Type} [BEq α] (v w : View α) : Prop where
  size : v.size = w.size
  xs : (v.xs == w.xs) = true
  branchYs (i : Nat) : (v.branchYs i == w.branchYs i) = true
  branchValues (i : Nat) : (v.branchValues i == w.branchValues i) = true
  sampleCount : v.sampleCount = w.sampleCount
  minBranchSize : v.minBranchSize = w.minBranchSize

/-- The samples of a surface in two columns, with the places at which the branches begin and end. -/
structure Surface.Arena (α : Type) where
  xs : List α
  offsets : List Nat
  ys : List α
  values : List α
  deriving BEq, DecidableEq, Repr

variable {α : Type}

namespace Surface.Arena

def size (a : Arena α) : Nat :=
  a.xs.length

def span? (a : Arena α) (i : Nat) : Option (Nat × Nat) :=
  if a.size ≤ i then none
  else do
    let start ← a.offsets[i]?
    let stop ← a.offsets[i + 1]?
    some (start, stop)

def slice (column : List α) (span : Nat × Nat) : List α :=
  (column.drop span.1).take (span.2 - span.1)

def branchYs (a : Arena α) (i : Nat) : List α :=
  ((a.span? i).map (slice a.ys)).getD []

def branchValues (a : Arena α) (i : Nat) : List α :=
  ((a.span? i).map (slice a.values)).getD []

def minBranchSize (a : Arena α) : Nat :=
  (List.zipWith (fun start stop ↦ stop - start) a.offsets a.offsets.tail).min?.getD 0

def sampleCount (a : Arena α) : Nat :=
  a.ys.length

def view (a : Arena α) : View α :=
  ⟨a.size, a.xs, a.branchYs, a.branchValues, a.sampleCount, a.minBranchSize⟩

def push [Scalar α] (index : Nat) (a : Arena α) (s : α × α) : Except TableError (Arena α) :=
  if Scalar.isFinite s.1 && Scalar.isFinite s.2 then
    .ok { a with ys := a.ys ++ [s.1], values := a.values ++ [s.2] }
  else
    .error (.nonFinite "inner sample" index)

/-- Copies a node: its samples one after the other, then the order of what was copied is looked at, and its
end is noted. -/
def pushNode [Scalar α] (a : Arena α) (index : Nat) (n : Node α) : Except TableError (Arena α) :=
  if n.branch.isEmpty then .error (.emptyBranch index)
  else do
    let copied ← n.branch.foldlM (push index) a
    if (Axis.firstNonIncreasing (copied.ys.drop a.ys.length)).isSome then
      .error (.nonMonotonic "inner axis" index)
    else
      .ok { copied with offsets := copied.offsets ++ [copied.ys.length] }

def extend (a : Arena α) (n : Node α) : Arena α where
  xs := a.xs
  offsets := a.offsets ++ [a.ys.length + n.branch.length]
  ys := a.ys ++ n.branch.map Prod.fst
  values := a.values ++ n.branch.map Prod.snd

end Surface.Arena

def Surface.Draft.pack [Scalar α] (d : Draft α) : Except TableError (Arena α) :=
  if d.nodes.isEmpty then .error (.tooFewPoints "outer axis" 0 1)
  else if let some i := Axis.firstNonFinite d.xs then .error (.nonFinite "outer axis" i)
  else if let some i := Axis.firstNonIncreasing d.xs then .error (.nonMonotonic "outer axis" i)
  else d.nodes.zipIdx.foldlM (fun a p ↦ a.pushNode p.2 p.1) ⟨d.xs, [0], [], []⟩

namespace Surface

def lengths (nodes : List (Node α)) : List Nat :=
  nodes.map fun n ↦ n.branch.length

def columns (side : α × α → α) (nodes : List (Node α)) : List (List α) :=
  nodes.map fun n ↦ n.branch.map side

def view (s : Surface α) : View α :=
  ⟨s.size, s.xs, s.branchYs, s.branchValues, s.sampleCount, s.minBranchSize⟩

def arena (s : Surface α) : Arena α where
  xs := s.xs
  offsets := (lengths s.nodes).scanl (· + ·) 0
  ys := (columns Prod.fst s.nodes).flatten
  values := (columns Prod.snd s.nodes).flatten

section Packing

variable [Scalar α]

theorem Arena.foldlM_push (index : Nat) (samples : List (α × α)) (a : Arena α) :
    samples.foldlM (push index) a =
      accept (faultUnless (samples.all fun s ↦ Scalar.isFinite s.1 && Scalar.isFinite s.2)
        (.nonFinite "inner sample" index))
        { a with ys := a.ys ++ samples.map Prod.fst, values := a.values ++ samples.map Prod.snd } := by
  induction samples generalizing a with
  | nil => simp [faultUnless, pure, Except.pure]
  | cons s r ih =>
    rw [List.foldlM_cons, push, List.all_cons]
    cases Scalar.isFinite s.1 && Scalar.isFinite s.2 with
    | false => rfl
    | true =>
      simp only [if_true, Bool.true_and, List.map_cons, bind, Except.bind]
      rw [ih]
      simp only [List.append_assoc, List.singleton_append]

theorem Arena.pushNode_eq (a : Arena α) (index : Nat) (n : Node α) :
    a.pushNode index n = accept (n.faults index) (a.extend n) := by
  rw [Node.faults, List.append_assoc, accept_faultUnless_append, accept_faultUnless_append, pushNode,
    foldlM_push]
  cases n.branch.isEmpty with
  | true => rfl
  | false =>
    cases n.branch.all fun s ↦ Scalar.isFinite s.1 && Scalar.isFinite s.2 with
    | false => rfl
    | true =>
      simp only [faultUnless, if_true, accept_nil, bind, Except.bind, List.drop_left, List.length_append,
        List.length_map]
      cases Axis.firstNonIncreasing (n.branch.map Prod.fst) <;> rfl

omit [Scalar α] in
theorem Arena.foldl_extend (nodes : List (Node α)) (xs : List α) (offsets : List Nat) (ys values : List α) :
    nodes.foldl extend ⟨xs, offsets ++ [ys.length], ys, values⟩ =
      ⟨xs, offsets ++ (lengths nodes).scanl (· + ·) ys.length, ys ++ (columns Prod.fst nodes).flatten,
        values ++ (columns Prod.snd nodes).flatten⟩ := by
  induction nodes generalizing offsets ys values with
  | nil => simp [lengths, columns]
  | cons n nodes ih =>
    have hlength : ys.length + n.branch.length = (ys ++ n.branch.map Prod.fst).length := by simp
    rw [List.foldl_cons, extend, hlength, ih]
    simp [lengths, columns, List.append_assoc]

/-- Copying a draft finds the faults of the draft, and gives the block of the surface if there are none. -/
theorem Draft.pack_eq (d : Draft α) : d.pack = d.build.map Surface.arena := by
  have hnodes : d.nodes.zipIdx.foldlM (fun a p ↦ a.pushNode p.2 p.1) (⟨d.xs, [0], [], []⟩ : Arena α) =
      accept (d.nodes.zipIdx.flatMap fun p ↦ p.1.faults p.2) (arena ⟨d.nodes⟩) := by
    simp only [Arena.pushNode_eq]
    rw [foldlM_accept, ← List.foldl_map, List.zipIdx_map_fst]
    exact congrArg _ (Arena.foldl_extend d.nodes d.xs [] [] [])
  rw [pack, build, faults, List.append_assoc, List.append_assoc, accept_faultUnless_append, hnodes]
  cases d.nodes.isEmpty with
  | true => rfl
  | false =>
    cases Axis.firstNonFinite d.xs with
    | some i => rfl
    | none =>
      cases Axis.firstNonIncreasing d.xs with
      | some i => rfl
      | none => cases d.nodes.zipIdx.flatMap fun p ↦ p.1.faults p.2 <;> rfl

end Packing

section Reading

variable (s : Surface α)

theorem map_length_columns (side : α × α → α) (nodes : List (Node α)) :
    (columns side nodes).map List.length = lengths nodes := by
  simp [columns, lengths]

def start (i : Nat) : Nat :=
  ((lengths s.nodes).take i).sum

theorem Arena.size_arena : s.arena.size = s.size := by
  simp [arena, size, Surface.size, Surface.xs]

theorem Arena.span?_arena (i : Nat) :
    s.arena.span? i = if i < s.size then some (s.start i, s.start (i + 1)) else none := by
  have hlength : (lengths s.nodes).length = s.size := by simp [lengths, Surface.size]
  rw [span?, size_arena]
  by_cases hi : i < s.size
  · rw [if_neg (by omega), if_pos hi]
    simp only [arena, List.getElem?_scanl, hlength, ← List.sum_eq_foldl]
    rw [if_pos (by omega), if_pos (by omega)]
    rfl
  · rw [if_pos (by omega), if_neg hi]

/-- The span of a position holds the branch of the node at this position and nothing else. -/
theorem Arena.slice_columns {i : Nat} (hi : i < s.size) (side : α × α → α) :
    slice (columns side s.nodes).flatten (s.start i, s.start (i + 1)) = (s.branch i).map side := by
  have hi' : i < (columns side s.nodes).length := by simpa [columns, Surface.size] using hi
  rw [slice, ← List.drop_take, Surface.start, Surface.start, ← map_length_columns side,
    List.drop_take_succ_flatten_eq_getElem _ _ hi']
  simp only [columns, List.getElem_map, Surface.branch]
  rw [List.getElem?_eq_getElem hi]
  rfl

theorem branch_eq_nil {s : Surface α} {i : Nat} (h : ¬ i < s.size) : s.branch i = [] := by
  rw [branch, List.getElem?_eq_none (by simpa [size] using h)]
  rfl

theorem Arena.branchYs_arena (i : Nat) : s.arena.branchYs i = s.branchYs i := by
  rw [branchYs, span?_arena, Surface.branchYs]
  by_cases hi : i < s.size
  · rw [if_pos hi]
    exact slice_columns s hi Prod.fst
  · rw [if_neg hi, branch_eq_nil hi]
    rfl

theorem Arena.branchValues_arena (i : Nat) : s.arena.branchValues i = s.branchValues i := by
  rw [branchValues, span?_arena, Surface.branchValues]
  by_cases hi : i < s.size
  · rw [if_pos hi]
    exact slice_columns s hi Prod.snd
  · rw [if_neg hi, branch_eq_nil hi]
    rfl

theorem getElem?_columns (side : α × α → α) (i : Nat) :
    (columns side s.nodes)[i]?.getD [] = (s.branch i).map side := by
  rw [columns, List.getElem?_map, branch]
  cases s.nodes[i]? <;> rfl

theorem sampleCount_eq_sum : s.sampleCount = (lengths s.nodes).sum := by
  rw [sampleCount, lengths, List.sum_eq_foldr, List.foldr_map]

theorem Arena.sampleCount_arena : s.arena.sampleCount = s.sampleCount := by
  rw [sampleCount, arena, List.length_flatten, map_length_columns, sampleCount_eq_sum]

theorem zipWith_sub_scanl (lengths : List Nat) (start : Nat) :
    List.zipWith (fun start stop ↦ stop - start) (lengths.scanl (· + ·) start)
      (lengths.scanl (· + ·) start).tail = lengths := by
  induction lengths generalizing start with
  | nil => rfl
  | cons n lengths ih =>
    have htail : ∃ rest, lengths.scanl (· + ·) (start + n) = (start + n) :: rest := by
      cases lengths with
      | nil => exact ⟨[], rfl⟩
      | cons m rest => exact ⟨_, List.scanl_cons⟩
    obtain ⟨rest, hrest⟩ := htail
    have hih := ih (start + n)
    rw [List.scanl_cons, List.tail_cons]
    rw [hrest] at hih ⊢
    rw [List.zipWith_cons_cons]
    rw [List.tail_cons] at hih
    rw [hih, Nat.add_sub_cancel_left]

theorem Arena.minBranchSize_arena : s.arena.minBranchSize = s.minBranchSize := by
  rw [minBranchSize, arena, zipWith_sub_scanl]
  rfl

theorem Arena.view_arena : s.arena.view = s.view := by
  rw [view, Surface.view, size_arena, funext (branchYs_arena s), funext (branchValues_arena s),
    sampleCount_arena, minBranchSize_arena]
  rfl

end Reading

section Equality

variable [BEq α] {s s' : Surface α}

theorem pairs_beq_iff {l l' : List (α × α)} :
    (l == l') = true ↔ (l.map Prod.fst == l'.map Prod.fst) = true ∧
      (l.map Prod.snd == l'.map Prod.snd) = true := by
  induction l generalizing l' with
  | nil => cases l' <;> simp
  | cons p l ih =>
    cases l' with
    | nil => simp
    | cons p' l' =>
      have hpair : (p == p') = (p.1 == p'.1 && p.2 == p'.2) := rfl
      simp only [List.cons_beq_cons, List.map_cons, Bool.and_eq_true, ih, hpair]
      tauto

theorem beq_iff_columns : (s == s') = true ↔ (s.xs == s'.xs) = true ∧
    (columns Prod.fst s.nodes == columns Prod.fst s'.nodes) = true ∧
    (columns Prod.snd s.nodes == columns Prod.snd s'.nodes) = true := by
  obtain ⟨nodes⟩ := s
  obtain ⟨nodes'⟩ := s'
  have hnodes : ((⟨nodes⟩ : Surface α) == ⟨nodes'⟩) = (nodes == nodes') := rfl
  rw [hnodes]
  simp only [xs, columns]
  induction nodes generalizing nodes' with
  | nil => cases nodes' <;> simp
  | cons n nodes ih =>
    cases nodes' with
    | nil => simp
    | cons n' nodes' =>
      have hnode : (n == n') = (n.x == n'.x && n.branch == n'.branch) := rfl
      simp only [List.cons_beq_cons, List.map_cons, Bool.and_eq_true, ih nodes' rfl, hnode, pairs_beq_iff]
      tauto

theorem map_length_eq_of_beq {l l' : List (List α)} (h : (l == l') = true) :
    l.map List.length = l'.map List.length := by
  induction l generalizing l' with
  | nil =>
    cases l' with
    | nil => rfl
    | cons b l' => cases h
  | cons a l ih =>
    cases l' with
    | nil => cases h
    | cons b l' =>
      rw [List.cons_beq_cons, Bool.and_eq_true] at h
      rw [List.map_cons, List.map_cons, List.length_eq_of_beq h.1, ih h.2]

theorem lengths_eq_of_beq {side : α × α → α} {nodes nodes' : List (Node α)}
    (h : (columns side nodes == columns side nodes') = true) : lengths nodes = lengths nodes' := by
  rw [← map_length_columns side, map_length_eq_of_beq h, map_length_columns]

theorem append_beq_append {l l' m m' : List α} (h : l.length = l'.length) :
    (l ++ m == l' ++ m') = (l == l' && m == m') := by
  induction l generalizing l' with
  | nil =>
    obtain rfl := List.length_eq_zero_iff.mp h.symm
    simp
  | cons a l ih =>
    cases l' with
    | nil => cases h
    | cons b l' =>
      rw [List.cons_append, List.cons_append, List.cons_beq_cons, List.cons_beq_cons,
        ih (Nat.succ.inj h), Bool.and_assoc]

/-- One column compares as its branches do, if these have the same lengths. -/
theorem flatten_beq_flatten {l l' : List (List α)} (h : l.map List.length = l'.map List.length) :
    (l.flatten == l'.flatten) = (l == l') := by
  induction l generalizing l' with
  | nil =>
    obtain rfl := List.map_eq_nil_iff.mp h.symm
    rfl
  | cons a l ih =>
    cases l' with
    | nil => cases h
    | cons b l' =>
      rw [List.map_cons, List.map_cons, List.cons.injEq] at h
      rw [List.flatten_cons, List.flatten_cons, append_beq_append h.1, ih h.2, List.cons_beq_cons]

theorem Arena.arena_beq_arena : (s.arena == s'.arena) = (s == s') := by
  have harena : (s.arena == s'.arena) = (s.arena.xs == s'.arena.xs &&
    (s.arena.offsets == s'.arena.offsets && (s.arena.ys == s'.arena.ys &&
      s.arena.values == s'.arena.values))) := rfl
  rw [Bool.eq_iff_iff, beq_iff_columns, harena]
  simp only [Bool.and_eq_true, beq_iff_eq, arena]
  constructor
  · intro h
    obtain ⟨hxs, hoffsets, hys, hvalues⟩ := h
    have hlengths : lengths s.nodes = lengths s'.nodes := by
      rw [← zipWith_sub_scanl (lengths s.nodes) 0, hoffsets, zipWith_sub_scanl]
    have hcolumns (side : α × α → α) :
        (columns side s.nodes).map List.length = (columns side s'.nodes).map List.length := by
      rw [map_length_columns, map_length_columns, hlengths]
    exact ⟨hxs, flatten_beq_flatten (hcolumns Prod.fst) ▸ hys,
      flatten_beq_flatten (hcolumns Prod.snd) ▸ hvalues⟩
  · intro h
    obtain ⟨hxs, hys, hvalues⟩ := h
    have hvalueLengths := map_length_eq_of_beq hvalues
    rw [flatten_beq_flatten (map_length_eq_of_beq hys), flatten_beq_flatten hvalueLengths,
      lengths_eq_of_beq hys]
    exact ⟨hxs, rfl, hys, hvalues⟩

theorem lists_beq_iff {l l' : List (List α)} (h : l.length = l'.length) :
    (l == l') = true ↔ ∀ i : Nat, (l[i]?.getD [] == l'[i]?.getD []) = true := by
  induction l generalizing l' with
  | nil =>
    obtain rfl := List.length_eq_zero_iff.mp h.symm
    simp
  | cons a l ih =>
    cases l' with
    | nil => cases h
    | cons b l' =>
      rw [List.cons_beq_cons, Bool.and_eq_true, ih (Nat.succ.inj h)]
      constructor
      · intro hall i
        cases i with
        | zero => exact hall.1
        | succ i => exact hall.2 i
      · intro hall
        exact ⟨hall 0, fun i ↦ hall (i + 1)⟩

/-- Surfaces are equal exactly if they show the same. -/
theorem beq_iff_same : (s == s') = true ↔ s.view.Same s'.view := by
  rw [beq_iff_columns]
  have hcolumns (hxs : (s.xs == s'.xs) = true) (side : α × α → α) :
      (columns side s.nodes == columns side s'.nodes) = true ↔
        ∀ i, ((s.branch i).map side == (s'.branch i).map side) = true := by
    have hlength := List.length_eq_of_beq hxs
    rw [lists_beq_iff (by simpa [columns, xs] using hlength)]
    simp only [getElem?_columns]
  constructor
  · intro h
    obtain ⟨hxs, hys, hvalues⟩ := h
    have hsize : s.size = s'.size := by simpa [xs, size] using List.length_eq_of_beq hxs
    have hlengths : lengths s.nodes = lengths s'.nodes := lengths_eq_of_beq hys
    refine ⟨hsize, hxs, (hcolumns hxs Prod.fst).mp hys, (hcolumns hxs Prod.snd).mp hvalues, ?_, ?_⟩
    · exact (sampleCount_eq_sum s).trans (hlengths ▸ (sampleCount_eq_sum s').symm)
    · exact congrArg (fun lengths ↦ lengths.min?.getD 0) hlengths
  · intro h
    exact ⟨h.xs, (hcolumns h.xs Prod.fst).mpr h.branchYs, (hcolumns h.xs Prod.snd).mpr h.branchValues⟩

end Equality

end Surface

end ReservoirGas
