import ReservoirGas.Units

namespace ReservoirGas

namespace Axis

variable {α : Type} [Scalar α]

/-- The first position, from 1 on, whose coordinate is NaN or does not exceed the one before it. -/
def firstNonIncreasing : List α → Option Nat
  | a :: b :: r =>
    if Scalar.le b a || Scalar.isNaN b then some 1
    else (firstNonIncreasing (b :: r)).map (· + 1)
  | _ => none

def firstNonFinite (xs : List α) : Option Nat :=
  xs.findIdx? fun x ↦ !Scalar.isFinite x

/-- The segment from `xs[i]` to `xs[i + 1]` that serves the coordinate `x`: the one that holds it, or
the first or last one for a coordinate beyond the axis, which has at least two entries. -/
def segment (xs : List α) (x : α) : Nat :=
  min (max (xs.takeWhile fun v ↦ Scalar.le v x).length 1) (xs.length - 1) - 1

def line (x₀ y₀ x₁ y₁ x : α) : α :=
  if x₁ == x₀ then y₀ else y₀ + (y₁ - y₀) * (x - x₀) / (x₁ - x₀)

def eval? (points : List (α × α)) (x : α) : Option α :=
  let i := segment (points.map Prod.fst) x
  match points[i]?, points[i + 1]? with
  | some p, some q => some (line p.1 p.2 q.1 q.2 x)
  | _, _ => none

end Axis

section Accept

variable {ε α : Type}

def accept (faults : List ε) (x : α) : Except ε α :=
  match faults with
  | [] => .ok x
  | e :: _ => .error e

@[simp] theorem accept_nil (x : α) : accept ([] : List ε) x = .ok x := rfl

@[simp] theorem accept_cons (e : ε) (r : List ε) (x : α) : accept (e :: r) x = .error e := rfl

theorem accept_eq_ok_iff {faults : List ε} {x y : α} :
    accept faults x = .ok y ↔ faults = [] ∧ x = y := by
  cases faults <;> simp

theorem accept_eq_error_iff {faults : List ε} {x : α} {e : ε} :
    accept faults x = .error e ↔ faults.head? = some e := by
  cases faults <;> simp

def faultUnless (test : Bool) (e : ε) : List ε :=
  if test then [] else [e]

theorem faultUnless_eq_nil_iff {test : Bool} {e : ε} : faultUnless test e = [] ↔ test = true := by
  cases test <;> simp [faultUnless]

end Accept

inductive TableError
  | tooFewPoints (what : String) (count minimum : Nat)
  | lengthMismatch (what : String) (xCount yCount : Nat)
  | nonMonotonic (what : String) (index : Nat)
  | nodeOutOfRange (index count : Nat)
  | emptyBranch (index : Nat)
  | nonFinite (what : String) (index : Nat)
  deriving BEq, DecidableEq, Repr

def TableError.message : TableError → String
  | .tooFewPoints what count minimum =>
    s!"{what} has {count} points (at least {minimum} required)"
  | .lengthMismatch what xCount yCount =>
    s!"Column length mismatch for {what}: {xCount} vs {yCount}"
  | .nonMonotonic what index => s!"{what} is not strictly increasing at index {index}"
  | .nodeOutOfRange index count => s!"Outer node {index} does not exist (table has {count})"
  | .emptyBranch index => s!"Outer node {index} has no inner samples"
  | .nonFinite what index => s!"Non-finite value in {what} at index {index}"

structure Curve (α : Type) where
  points : List (α × α)
  deriving BEq, DecidableEq, Repr

namespace Curve

variable {α : Type} [Scalar α]

def minPoints : Nat := 2

def faults (xs ys : List α) : List TableError :=
  faultUnless (xs.length == ys.length) (.lengthMismatch "1-D table" xs.length ys.length) ++
  faultUnless (minPoints ≤ xs.length) (.tooFewPoints "1-D table" xs.length minPoints) ++
  ((Axis.firstNonFinite xs).map (.nonFinite "x")).toList ++
  ((Axis.firstNonFinite ys).map (.nonFinite "y")).toList ++
  ((Axis.firstNonIncreasing xs).map (.nonMonotonic "x")).toList

def ofColumns (xs ys : List α) : Except TableError (Curve α) :=
  accept (faults xs ys) ⟨xs.zip ys⟩

def xs (c : Curve α) : List α :=
  c.points.map Prod.fst

def ys (c : Curve α) : List α :=
  c.points.map Prod.snd

def size (c : Curve α) : Nat :=
  c.points.length

def isEmpty (c : Curve α) : Bool :=
  c.points.isEmpty

def first? (c : Curve α) : Option α :=
  c.xs.head?

def last? (c : Curve α) : Option α :=
  c.xs.getLast?

def eval? (c : Curve α) (x : α) : Option α :=
  Axis.eval? c.points x

def eval (c : Curve α) (x : α) : α :=
  (c.eval? x).getD Scalar.undefined

end Curve

structure Surface.Node (α : Type) where
  x : α
  branch : List (α × α)
  deriving BEq, DecidableEq, Repr

namespace Surface.Node

variable {α : Type} [Scalar α]

def faults (index : Nat) (n : Node α) : List TableError :=
  faultUnless (!n.branch.isEmpty) (.emptyBranch index) ++
  faultUnless (n.branch.all fun s ↦ Scalar.isFinite s.1 && Scalar.isFinite s.2)
    (.nonFinite "inner sample" index) ++
  faultUnless (Axis.firstNonIncreasing (n.branch.map Prod.fst)).isNone (.nonMonotonic "inner axis" index)

def eval (n : Node α) (y : α) : α :=
  match n.branch with
  | [] => Scalar.undefined
  | [s] => s.2
  | branch => (Axis.eval? branch y).getD Scalar.undefined

end Surface.Node

structure Surface (α : Type) where
  nodes : List (Surface.Node α)
  deriving BEq, DecidableEq, Repr

structure Surface.Draft (α : Type) where
  nodes : List (Surface.Node α) := []
  deriving BEq, DecidableEq, Repr

namespace Surface.Draft

variable {α : Type} [Scalar α]

def xs (d : Draft α) : List α :=
  d.nodes.map Node.x

def appendNode (d : Draft α) (x : α) : Draft α :=
  ⟨d.nodes ++ [⟨x, []⟩]⟩

def appendSample (d : Draft α) (i : Nat) (y value : α) : Except TableError (Draft α) :=
  if i < d.nodes.length then
    .ok ⟨d.nodes.modify i fun n ↦ { n with branch := n.branch ++ [(y, value)] }⟩
  else
    .error (.nodeOutOfRange i d.nodes.length)

def appendBranch (d : Draft α) (x : α) (samples : List (α × α)) : Except TableError (Draft α) :=
  samples.foldlM (fun d' s ↦ d'.appendSample d.nodes.length s.1 s.2) (d.appendNode x)

def branchSize (d : Draft α) (i : Nat) : Nat :=
  (d.nodes[i]?.map fun n ↦ n.branch.length).getD 0

/-- What keeps the draft from being a surface, the first fault first: too few nodes, the outer axis,
then the nodes in order. -/
def faults (d : Draft α) : List TableError :=
  faultUnless (!d.nodes.isEmpty) (.tooFewPoints "outer axis" 0 1) ++
  ((Axis.firstNonFinite d.xs).map (.nonFinite "outer axis")).toList ++
  ((Axis.firstNonIncreasing d.xs).map (.nonMonotonic "outer axis")).toList ++
  d.nodes.zipIdx.flatMap fun (n, i) ↦ n.faults i

def build (d : Draft α) : Except TableError (Surface α) :=
  accept d.faults ⟨d.nodes⟩

end Surface.Draft

namespace Surface

variable {α : Type} [Scalar α]

def xs (s : Surface α) : List α :=
  s.nodes.map Node.x

def size (s : Surface α) : Nat :=
  s.nodes.length

def branch (s : Surface α) (i : Nat) : List (α × α) :=
  (s.nodes[i]?.map Node.branch).getD []

def branchYs (s : Surface α) (i : Nat) : List α :=
  (s.branch i).map Prod.fst

def branchValues (s : Surface α) (i : Nat) : List α :=
  (s.branch i).map Prod.snd

def minBranchSize (s : Surface α) : Nat :=
  (s.nodes.map fun n ↦ n.branch.length).min?.getD 0

def sampleCount (s : Surface α) : Nat :=
  s.nodes.foldr (fun n total ↦ n.branch.length + total) 0

def evalBranch (s : Surface α) (i : Nat) (y : α) : α :=
  ((s.nodes[i]?).map fun n ↦ n.eval y).getD Scalar.undefined

/-- The value at `(x, y)`: both branches that bound the segment of `x` are taken at `y`, and the line
through the two results at `x`. A single node serves every `x`. -/
def eval (s : Surface α) (x y : α) : α :=
  match s.nodes with
  | [n] => n.eval y
  | nodes => (Axis.eval? (nodes.map fun n ↦ (n.x, n.eval y)) x).getD Scalar.undefined

end Surface

end ReservoirGas
