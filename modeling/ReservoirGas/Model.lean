import ReservoirGas.Properties

namespace ReservoirGas

namespace Jobs

variable {ε β : Type}

def inTurn : List (Unit → Except ε β) → Except ε (List β)
  | [] => .ok []
  | job :: r => do
    let x ← job ()
    return x :: (← inTurn r)

def finish (jobs : List (Unit → Except ε β)) (done : List (Option (Except ε β))) (i : Nat) :
    List (Option (Except ε β)) :=
  done.set i (jobs[i]?.map fun job ↦ job ())

def results (order : List Nat) (jobs : List (Unit → Except ε β)) : List (Option (Except ε β)) :=
  order.foldl (finish jobs) (jobs.map fun _ ↦ none)

def collect : List (Except ε β) → Except ε (List β)
  | [] => .ok []
  | .error e :: _ => .error e
  | .ok x :: r => do return x :: (← collect r)

/-- Runs all jobs side by side; they finish in the order `order`. -/
def sideBySide (order : List Nat) (jobs : List (Unit → Except ε β)) : Except ε (List β) :=
  collect ((results order jobs).filterMap id)

end Jobs

inductive OilVaporization (α : Type)
  | undefined
  | parameters (vap1 vap2 : α)
  | rates (maxDissolved maxVaporized : Option α)
  deriving BEq, DecidableEq, Repr

structure Schedule (α : Type) where
  steps : List (OilVaporization α) := []
  deriving BEq, DecidableEq, Repr

structure VaporizationControl (α : Type) where
  vapPar1 : α
  deriving BEq, DecidableEq, Repr

namespace VaporizationControl

variable {α : Type} [Scalar α]

def inactive : VaporizationControl α :=
  ⟨Scalar.zero⟩

/-- The first parameter of the schedule's first step; inactive if that step sets no parameters. -/
def ofSchedule (s : Schedule α) : VaporizationControl α :=
  match s.steps with
  | .parameters vap1 _ :: _ => ⟨vap1⟩
  | _ => inactive

def isActive (c : VaporizationControl α) : Bool :=
  Scalar.lt Scalar.zero c.vapPar1

end VaporizationControl

structure BuildOptions where
  parallel : Bool := false
  deriving BEq, DecidableEq, Repr

structure Model (α : Type) where
  regions : List (RegionProperties α)
  control : VaporizationControl α
  saltEnabled : Bool
  deriving BEq, DecidableEq

namespace Model

variable {α : Type} [Scalar α]

def jobs (d : Deck α) : List (Unit → Except (PropertyError α) (RegionProperties α)) :=
  d.entries.map fun e _ ↦ RegionProperties.ofEntry e

/-- The model of a deck, where parallel jobs finish in the order `order`. -/
def buildIn (order : List Nat) (options : BuildOptions) (control : VaporizationControl α) (d : Deck α) :
    Except (PropertyError α) (Model α) := do
  d.check
  let regions ← if options.parallel then Jobs.sideBySide order (jobs d) else Jobs.inTurn (jobs d)
  return ⟨regions, control, d.hasSalt⟩

def build (options : BuildOptions) (control : VaporizationControl α) (d : Deck α) :
    Except (PropertyError α) (Model α) :=
  buildIn (List.range d.regionCount) options control d

def region? (m : Model α) (i : Nat) : Option (RegionProperties α) :=
  m.regions[i]?

def gas? (m : Model α) (i : Nat) (family : Family) : Option (GasProperties α) :=
  (m.region? i).map fun r ↦ r.gas family

end Model

end ReservoirGas
