import ReservoirGas.Proofs.Axis
import ReservoirGas.Proofs.Outcome
import ReservoirGas.Tables

namespace ReservoirGas

open Outcome

variable {α : Type}

namespace Surface.Draft

theorem foldlM_appendSample (nodes : List (Node α)) (x : α) (branch samples : List (α × α)) :
    samples.foldlM (fun d s ↦ d.appendSample nodes.length s.1 s.2)
      (⟨nodes ++ [⟨x, branch⟩]⟩ : Draft α) = .ok ⟨nodes ++ [⟨x, branch ++ samples⟩]⟩ := by
  induction samples generalizing branch with
  | nil => simp [pure, Except.pure]
  | cons s r ih =>
    have hstep : appendSample ⟨nodes ++ [⟨x, branch⟩]⟩ nodes.length s.1 s.2 =
        .ok ⟨nodes ++ [⟨x, branch ++ [s]⟩]⟩ := by
      simp [appendSample, List.modify_eq_take_drop]
    rw [List.foldlM_cons, hstep]
    simpa using ih (branch ++ [s])

theorem appendBranch_eq_ok (d : Draft α) (x : α) (samples : List (α × α)) :
    d.appendBranch x samples = .ok ⟨d.nodes ++ [⟨x, samples⟩]⟩ :=
  foldlM_appendSample d.nodes x [] samples

theorem foldlM_appendBranch {ι : Type} (x : ι → α) (samples : ι → List (α × α)) (items : List ι)
    (d : Draft α) :
    items.foldlM (fun d i ↦ d.appendBranch (x i) (samples i)) d =
      .ok ⟨d.nodes ++ items.map fun i ↦ ⟨x i, samples i⟩⟩ := by
  induction items generalizing d with
  | nil => simp [pure, Except.pure]
  | cons i r ih =>
    rw [List.foldlM_cons, appendBranch_eq_ok]
    refine (ih ⟨d.nodes ++ [⟨x i, samples i⟩]⟩).trans ?_
    rw [List.append_assoc, List.map_cons, List.singleton_append]

end Surface.Draft

theorem Curve.xs_mk_zip {xs ys : List α} (h : xs.length = ys.length) : (⟨xs.zip ys⟩ : Curve α).xs = xs := by
  simp [Curve.xs, List.map_fst_zip, h]

variable [Scalar α]

namespace Surface

namespace Node

structure Sound (n : Node α) : Prop where
  ne_nil : n.branch ≠ []
  finite : ∀ s ∈ n.branch, Scalar.isFinite s.1 = true ∧ Scalar.isFinite s.2 = true
  increasing : Axis.Increasing (n.branch.map Prod.fst)

theorem finite_fst {branch : List (α × α)}
    (h : ∀ s ∈ branch, Scalar.isFinite s.1 = true ∧ Scalar.isFinite s.2 = true) :
    Axis.Finite (branch.map Prod.fst) :=
  List.forall_mem_map.mpr fun s hs ↦ (h s hs).1

theorem faults_eq_nil_iff [Scalar.Ordered α] (index : Nat) (n : Node α) :
    n.faults index = [] ↔ n.Sound := by
  simp only [faults, List.append_eq_nil_iff, faultUnless_eq_nil_iff, Bool.not_eq_true',
    List.isEmpty_eq_false_iff, List.all_eq_true, Bool.and_eq_true, Option.isNone_iff_eq_none]
  constructor
  · intro h
    obtain ⟨⟨hne, hfin⟩, hinc⟩ := h
    exact ⟨hne, hfin, (Axis.firstNonIncreasing_eq_none_of_finite (finite_fst hfin)).mp hinc⟩
  · intro h
    exact ⟨⟨h.ne_nil, h.finite⟩,
      (Axis.firstNonIncreasing_eq_none_of_finite (finite_fst h.finite)).mpr h.increasing⟩

inductive FirstFault (index : Nat) (n : Node α) : TableError → Prop
  | empty (samples : n.branch = []) : FirstFault index n (.emptyBranch index)
  | sample {s : α × α} (mem : s ∈ n.branch)
    (notFinite : ¬ (Scalar.isFinite s.1 = true ∧ Scalar.isFinite s.2 = true)) :
    FirstFault index n (.nonFinite "inner sample" index)
  | order (finite : ∀ s ∈ n.branch, Scalar.isFinite s.1 = true ∧ Scalar.isFinite s.2 = true)
    (unordered : ¬ Axis.Increasing (n.branch.map Prod.fst)) :
    FirstFault index n (.nonMonotonic "inner axis" index)

theorem head?_faults_eq_some_iff [Scalar.Ordered α] {index : Nat} {n : Node α} {e : TableError} :
    (n.faults index).head? = some e ↔ n.FirstFault index e := by
  simp only [faults, head?_append_eq_some_iff, head?_faultUnless_eq_some_iff, List.append_eq_nil_iff,
    faultUnless_eq_nil_iff, Bool.not_eq_false', Bool.not_eq_true', List.isEmpty_iff,
    List.isEmpty_eq_false_iff, List.all_eq_false, List.all_eq_true, Bool.and_eq_true]
  constructor
  · intro h
    rcases h with (⟨hempty, rfl⟩ | ⟨-, ⟨s, hs, hvalue⟩, rfl⟩) | ⟨⟨-, hfinite⟩, hdrop, rfl⟩
    · exact .empty hempty
    · exact .sample hs hvalue
    · refine .order hfinite fun hincreasing ↦ ?_
      have hnone := (Axis.firstNonIncreasing_eq_none_of_finite (finite_fst hfinite)).mpr hincreasing
      rw [hnone] at hdrop
      cases hdrop
  · intro h
    cases h with
    | empty hempty => exact .inl (.inl ⟨hempty, rfl⟩)
    | sample hs hvalue => exact .inl (.inr ⟨List.ne_nil_of_mem hs, ⟨_, hs, hvalue⟩, rfl⟩)
    | order hfinite hunordered =>
      refine .inr ⟨⟨fun hempty ↦ hunordered ?_, hfinite⟩, ?_, rfl⟩
      · rw [hempty]
        exact List.Pairwise.nil
      · rw [← Bool.not_eq_true, Option.isNone_iff_eq_none,
          Axis.firstNonIncreasing_eq_none_of_finite (finite_fst hfinite)]
        exact hunordered

end Node

structure Sound (s : Surface α) : Prop where
  ne_nil : s.nodes ≠ []
  finite : Axis.Finite s.xs
  increasing : Axis.Increasing s.xs
  node : ∀ n ∈ s.nodes, n.Sound

theorem eval_of_two_le {s : Surface α} (h : 2 ≤ s.size) (x y : α) :
    s.eval x y = (Axis.eval? (s.nodes.map fun n ↦ (n.x, n.eval y)) x).getD Scalar.undefined := by
  match s with
  | ⟨_ :: _ :: _⟩ => rfl

namespace Draft

variable [Scalar.Ordered α]

theorem faults_eq_nil_iff (d : Draft α) : d.faults = [] ↔ Surface.Sound ⟨d.nodes⟩ := by
  simp only [faults, List.append_eq_nil_iff, faultUnless_eq_nil_iff, Bool.not_eq_true',
    List.isEmpty_eq_false_iff, Option.toList_eq_nil_iff, Option.map_eq_none_iff,
    flatMap_zipIdx_eq_nil_iff Node.faults_eq_nil_iff, Axis.firstNonFinite_eq_none_iff]
  constructor
  · intro h
    obtain ⟨⟨⟨hne, hfin⟩, hinc⟩, hn⟩ := h
    exact ⟨hne, hfin, (Axis.firstNonIncreasing_eq_none_of_finite hfin).mp hinc, hn⟩
  · intro h
    exact ⟨⟨⟨h.ne_nil, h.finite⟩,
      (Axis.firstNonIncreasing_eq_none_of_finite h.finite).mpr h.increasing⟩, h.node⟩

theorem build_eq_ok_iff {d : Draft α} {s : Surface α} :
    d.build = .ok s ↔ s.Sound ∧ s.nodes = d.nodes := by
  rw [build, accept_eq_ok_iff, faults_eq_nil_iff]
  constructor
  · intro hs
    obtain ⟨h, rfl⟩ := hs
    exact ⟨h, rfl⟩
  · intro hs
    obtain ⟨h, hn⟩ := hs
    obtain ⟨nodes⟩ := s
    cases hn
    exact ⟨h, rfl⟩

/-- What is first found wrong with a draft. A node is at fault only if all nodes before it are sound. -/
inductive FirstFault (d : Draft α) : TableError → Prop
  | noNodes (nodes : d.nodes = []) : FirstFault d (.tooFewPoints "outer axis" 0 1)
  | position {i : Nat} (first : Axis.FirstNonFinite d.xs i) : FirstFault d (.nonFinite "outer axis" i)
  | order {i : Nat} (finite : Axis.Finite d.xs) (drop : Axis.FirstDrop d.xs i) :
    FirstFault d (.nonMonotonic "outer axis" i)
  | node {i : Nat} {n : Node α} {e : TableError} (finite : Axis.Finite d.xs)
    (increasing : Axis.Increasing d.xs) (node : d.nodes[i]? = some n)
    (before : ∀ n' ∈ d.nodes.take i, n'.Sound) (fault : n.FirstFault i e) : FirstFault d e

omit [Scalar.Ordered α] in
/-- Every sample that is in a draft has found its node. -/
theorem FirstFault.ne_nodeOutOfRange {d : Draft α} {e : TableError} (h : d.FirstFault e) {i count : Nat} :
    e ≠ .nodeOutOfRange i count := by
  rintro rfl
  cases h with
  | node _ _ _ _ hfault => cases hfault

theorem build_eq_error_iff {d : Draft α} {e : TableError} : d.build = .error e ↔ d.FirstFault e := by
  rw [build, accept_eq_error_iff]
  simp only [faults, head?_append_eq_some_iff, List.append_eq_nil_iff, head?_faultUnless_eq_some_iff,
    faultUnless_eq_nil_iff, Bool.not_eq_false', Bool.not_eq_true', List.isEmpty_iff,
    List.isEmpty_eq_false_iff, Axis.head?_firstNonFinite_eq_some_iff, Option.toList_eq_nil_iff,
    Option.map_eq_none_iff, Axis.firstNonFinite_eq_none_iff,
    head?_flatMap_zipIdx_eq_some_iff Node.faults_eq_nil_iff, Node.head?_faults_eq_some_iff]
  constructor
  · intro h
    rcases h with ((⟨hempty, rfl⟩ | ⟨-, i, hfirst, rfl⟩) | ⟨⟨-, hfinite⟩, hdrop⟩) |
      ⟨⟨⟨-, hfinite⟩, hnone⟩, i, n, hn, hfault, hbefore⟩
    · exact .noNodes hempty
    · exact .position hfirst
    · obtain ⟨i, hfirst, rfl⟩ := (Axis.head?_firstNonIncreasing_eq_some_iff hfinite).mp hdrop
      exact .order hfinite hfirst
    · have hincreasing := (Axis.firstNonIncreasing_eq_none_of_finite hfinite).mp hnone
      exact .node hfinite hincreasing hn hbefore hfault
  · intro h
    cases h with
    | noNodes hempty => exact .inl (.inl (.inl ⟨hempty, rfl⟩))
    | position hfirst => exact .inl (.inl (.inr ⟨mt List.map_eq_nil_iff.mpr hfirst.ne_nil, _, hfirst, rfl⟩))
    | order hfinite hfirst =>
      refine .inl (.inr ⟨⟨mt List.map_eq_nil_iff.mpr hfirst.ne_nil, hfinite⟩, ?_⟩)
      exact (Axis.head?_firstNonIncreasing_eq_some_iff hfinite).mpr ⟨_, hfirst, rfl⟩
    | node hfinite hincreasing hn hbefore hfault =>
      have hnone := (Axis.firstNonIncreasing_eq_none_of_finite hfinite).mpr hincreasing
      exact .inr ⟨⟨⟨List.ne_nil_of_mem (List.mem_of_getElem? hn), hfinite⟩, hnone⟩, _, _, hn, hfault, hbefore⟩

end Draft

end Surface

namespace Curve

variable [Scalar.Ordered α]

theorem ofColumns_eq_ok_iff {xs ys : List α} {c : Curve α} :
    ofColumns xs ys = .ok c ↔
      (xs.length = ys.length ∧ minPoints ≤ xs.length ∧ Axis.Finite xs ∧ Axis.Finite ys ∧
        Axis.Increasing xs) ∧ c = ⟨xs.zip ys⟩ := by
  simp only [ofColumns, accept_eq_ok_iff, faults, List.append_eq_nil_iff, faultUnless_eq_nil_iff,
    beq_iff_eq, decide_eq_true_eq, Option.toList_eq_nil_iff, Option.map_eq_none_iff,
    Axis.firstNonFinite_eq_none_iff]
  constructor
  · intro h
    obtain ⟨⟨⟨⟨⟨hlen, hmin⟩, hxs⟩, hys⟩, hinc⟩, rfl⟩ := h
    exact ⟨⟨hlen, hmin, hxs, hys, (Axis.firstNonIncreasing_eq_none_of_finite hxs).mp hinc⟩, rfl⟩
  · intro h
    obtain ⟨⟨hlen, hmin, hxs, hys, hinc⟩, rfl⟩ := h
    exact ⟨⟨⟨⟨⟨hlen, hmin⟩, hxs⟩, hys⟩, (Axis.firstNonIncreasing_eq_none_of_finite hxs).mpr hinc⟩, rfl⟩

inductive FirstFault (xs ys : List α) : TableError → Prop
  | lengths (lengths : xs.length ≠ ys.length) :
    FirstFault xs ys (.lengthMismatch "1-D table" xs.length ys.length)
  | short (lengths : xs.length = ys.length) (points : xs.length < minPoints) :
    FirstFault xs ys (.tooFewPoints "1-D table" xs.length minPoints)
  | abscissa {i : Nat} (lengths : xs.length = ys.length) (points : minPoints ≤ xs.length)
    (first : Axis.FirstNonFinite xs i) : FirstFault xs ys (.nonFinite "x" i)
  | ordinate {i : Nat} (lengths : xs.length = ys.length) (points : minPoints ≤ xs.length)
    (finite : Axis.Finite xs) (first : Axis.FirstNonFinite ys i) : FirstFault xs ys (.nonFinite "y" i)
  | order {i : Nat} (lengths : xs.length = ys.length) (points : minPoints ≤ xs.length)
    (finite : Axis.Finite xs) (finite' : Axis.Finite ys) (drop : Axis.FirstDrop xs i) :
    FirstFault xs ys (.nonMonotonic "x" i)

theorem ofColumns_eq_error_iff {xs ys : List α} {e : TableError} :
    ofColumns xs ys = .error e ↔ FirstFault xs ys e := by
  rw [ofColumns, accept_eq_error_iff]
  simp only [faults, head?_append_eq_some_iff, List.append_eq_nil_iff, head?_faultUnless_eq_some_iff,
    faultUnless_eq_nil_iff, beq_eq_false_iff_ne, beq_iff_eq, decide_eq_false_iff_not, Nat.not_le,
    decide_eq_true_eq, Axis.head?_firstNonFinite_eq_some_iff, Option.toList_eq_nil_iff,
    Option.map_eq_none_iff, Axis.firstNonFinite_eq_none_iff]
  constructor
  · intro h
    rcases h with (((⟨hlengths, rfl⟩ | ⟨hlengths, hshort, rfl⟩) | ⟨⟨hlengths, hpoints⟩, i, hfirst, rfl⟩) |
      ⟨⟨⟨hlengths, hpoints⟩, hxs⟩, i, hfirst, rfl⟩) | ⟨⟨⟨⟨hlengths, hpoints⟩, hxs⟩, hys⟩, hdrop⟩
    · exact .lengths hlengths
    · exact .short hlengths hshort
    · exact .abscissa hlengths hpoints hfirst
    · exact .ordinate hlengths hpoints hxs hfirst
    · obtain ⟨i, hfirst, rfl⟩ := (Axis.head?_firstNonIncreasing_eq_some_iff hxs).mp hdrop
      exact .order hlengths hpoints hxs hys hfirst
  · intro h
    cases h with
    | lengths hlengths => exact .inl (.inl (.inl (.inl ⟨hlengths, rfl⟩)))
    | short hlengths hshort => exact .inl (.inl (.inl (.inr ⟨hlengths, hshort, rfl⟩)))
    | abscissa hlengths hpoints hfirst => exact .inl (.inl (.inr ⟨⟨hlengths, hpoints⟩, _, hfirst, rfl⟩))
    | ordinate hlengths hpoints hxs hfirst =>
      exact .inl (.inr ⟨⟨⟨hlengths, hpoints⟩, hxs⟩, _, hfirst, rfl⟩)
    | order hlengths hpoints hxs hys hfirst =>
      refine .inr ⟨⟨⟨⟨hlengths, hpoints⟩, hxs⟩, hys⟩, ?_⟩
      exact (Axis.head?_firstNonIncreasing_eq_some_iff hxs).mpr ⟨_, hfirst, rfl⟩

end Curve

end ReservoirGas
