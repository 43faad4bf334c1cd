import ReservoirGas.Acceptance

namespace ReservoirGas

structure BranchSet.Node (α : Type) where
  pressure : α
  samples : List (GasSample α)
  deriving BEq, DecidableEq, Repr

structure BranchSet (α : Type) where
  nodes : List (BranchSet.Node α)
  deriving BEq, DecidableEq, Repr

namespace BranchSet

variable {α : Type}

def size (s : BranchSet α) : Nat :=
  s.nodes.length

def pressures (s : BranchSet α) : List α :=
  s.nodes.map Node.pressure

def branch (s : BranchSet α) (i : Nat) : List (GasSample α) :=
  (s.nodes[i]?.map Node.samples).getD []

def branchSize (s : BranchSet α) (i : Nat) : Nat :=
  (s.branch i).length

def minBranchSize (s : BranchSet α) : Nat :=
  (s.nodes.map fun n ↦ n.samples.length).min?.getD 0

def ofColumns (pressures : List α) (branches : List (List (GasSample α))) :
    Except (NumericError α) (BranchSet α) :=
  if pressures.length = branches.length then .ok ⟨pressures.zipWith Node.mk branches⟩
  else .error (.invalidArgument "one undersaturated branch per pressure node")

def ofTable (t : GasTable α) : BranchSet α :=
  ⟨t.pressures.zipIdx.map fun (p, i) ↦ ⟨p, t.branch i⟩⟩

variable [Scalar α]

def draft (value : GasSample α → α) (s : BranchSet α) : Except TableError (Surface.Draft α) :=
  s.nodes.foldlM (fun d n ↦ d.appendBranch n.pressure (n.samples.map fun x ↦ (x.ratio, value x))) {}

def inverseVolumeFactor (x : GasSample α) : α :=
  Scalar.one / x.volumeFactor

structure Frozen (α : Type) where
  inverseVolumeFactor : Surface α
  viscosity : Surface α

def freeze (s : BranchSet α) : Except TableError (Frozen α) := do
  let inverse ← s.draft inverseVolumeFactor
  let viscosity ← s.draft GasSample.viscosity
  return ⟨← inverse.build, ← viscosity.build⟩

end BranchSet

/-- A node whose branch was prolonged, the node it was prolonged from, and by how many samples. -/
structure Extension where
  node : Nat
  master : Nat
  added : Nat
  deriving DecidableEq, Repr

namespace GasSample

variable {α : Type} [Scalar α]

def relativeChange (older newer : α) : α :=
  (newer - older) / ((newer + older) / Scalar.two)

def applyChange (last x : α) : α :=
  last * (Scalar.one + x / Scalar.two) / (Scalar.one - x / Scalar.two)

/-- The sample that follows `last` as `next` follows `prev`. -/
def follow (last prev next : GasSample α) : Except (NumericError α) (GasSample α) := do
  let factor := applyChange last.volumeFactor (relativeChange prev.volumeFactor next.volumeFactor)
  let viscosity := applyChange last.viscosity (relativeChange prev.viscosity next.viscosity)
  return {
    ratio := ← ensureFinite "extrapolated ratio" (last.ratio + (next.ratio - prev.ratio))
    volumeFactor := ← ensureFinite "extrapolated formation volume factor" factor
    viscosity := ← ensureFinite "extrapolated viscosity" viscosity }

def followAll (last : GasSample α) : List (GasSample α) → Except (NumericError α) (List (GasSample α))
  | prev :: next :: r => do
    let s ← follow last prev next
    return s :: (← followAll s (next :: r))
  | _ => .ok []

def prolong (current master : List (GasSample α)) :
    Except (NumericError α) (List (GasSample α)) :=
  match current.getLast? with
  | none => .error (.invariant "undersaturated branch must hold at least one sample")
  | some last => followAll last master

end GasSample

namespace BranchSet

variable {α : Type}

def master? (s : BranchSet α) (i : Nat) : Option Nat :=
  (List.range s.size).find? fun m ↦ i < m && 1 < s.branchSize m

def prolongNode (s : BranchSet α) (i : Nat) (added : List (GasSample α)) : BranchSet α :=
  ⟨s.nodes.modify i fun n ↦ { n with samples := n.samples ++ added }⟩

structure Completed (α : Type) where
  branches : BranchSet α
  extensions : List Extension

variable [Scalar α]

/-- Completes the node at position `i` in `done`. Its samples and its master are those of `raw`. -/
def completeNode (family : Family) (region : Region.Id) (raw : BranchSet α) (done : Completed α)
    (i : Nat) : Except (PropertyError α) (Completed α) :=
  if 1 < raw.branchSize i then .ok done
  else match raw.master? i with
    | none => .error (.extrapolationImpossible family region i)
    | some m =>
      match GasSample.prolong (raw.branch i) (raw.branch m) with
      | .error e => .error (.invalidNumber e)
      | .ok added =>
        .ok ⟨done.branches.prolongNode i added, done.extensions ++ [⟨i, m, added.length⟩]⟩

def complete (family : Family) (region : Region.Id) (raw : BranchSet α) :
    Except (PropertyError α) (Completed α) :=
  (List.range raw.size).foldlM (completeNode family region raw) ⟨raw, []⟩

end BranchSet

end ReservoirGas
