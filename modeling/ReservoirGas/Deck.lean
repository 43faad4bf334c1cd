import ReservoirGas.Units

namespace ReservoirGas

/-- The two gas families: gas that carries vaporized oil, and gas that carries vaporized water. -/
inductive Family
  | wet
  | humid
  deriving DecidableEq, Repr

inductive Keyword
  | pvtg
  | pvtgw
  | rwgsalt
  | density
  deriving DecidableEq, Repr

def Keyword.name : Keyword → String
  | .pvtg => "PVTG"
  | .pvtgw => "PVTGW"
  | .rwgsalt => "RWGSALT"
  | .density => "DENSITY"

inductive Column
  | pressure
  | volumeFactor
  | viscosity
  | oilRatio
  | waterRatio
  | saltConcentration
  | saltRatio
  deriving DecidableEq, Repr

def Column.name : Column → String
  | .pressure => "PG"
  | .volumeFactor => "BG"
  | .viscosity => "MUG"
  | .oilRatio => "RV"
  | .waterRatio => "RW"
  | .saltConcentration => "C_SALT"
  | .saltRatio => "RVW"

namespace Family

def all : List Family := [.wet, .humid]

def keyword : Family → Keyword
  | .wet => .pvtg
  | .humid => .pvtgw

def ratioColumn : Family → Column
  | .wet => .oilRatio
  | .humid => .waterRatio

def name : Family → String
  | .wet => "wet"
  | .humid => "humid"

def ofName? (s : String) : Option Family :=
  all.find? fun f ↦ f.name == s

theorem ofName?_name (f : Family) : ofName? f.name = some f := by
  cases f <;> rfl

end Family

structure SaturatedRow (α : Type) where
  pressure : α
  volumeFactor : α
  viscosity : α
  ratio : α
  deriving BEq, DecidableEq, Repr

structure GasSample (α : Type) where
  ratio : α
  volumeFactor : α
  viscosity : α
  deriving BEq, DecidableEq, Repr

structure GasTable (α : Type) where
  saturated : List (SaturatedRow α)
  undersaturated : List (List (GasSample α)) := []
  deriving BEq, DecidableEq, Repr

namespace GasTable

variable {α : Type}

def pressures (t : GasTable α) : List α :=
  t.saturated.map SaturatedRow.pressure

def branch (t : GasTable α) (row : Nat) : List (GasSample α) :=
  t.undersaturated[row]?.getD []

end GasTable

structure SaltSaturatedRow (α : Type) where
  pressure : α
  ratio : α
  deriving BEq, DecidableEq, Repr

structure SaltSample (α : Type) where
  concentration : α
  ratio : α
  deriving BEq, DecidableEq, Repr

structure SaltTable (α : Type) where
  saturated : List (SaltSaturatedRow α)
  undersaturated : List (List (SaltSample α)) := []
  deriving BEq, DecidableEq, Repr

namespace SaltTable

variable {α : Type}

def pressures (t : SaltTable α) : List α :=
  t.saturated.map SaltSaturatedRow.pressure

def branch (t : SaltTable α) (row : Nat) : List (SaltSample α) :=
  t.undersaturated[row]?.getD []

end SaltTable

/-- All raw tables, one entry of each list for each region. Salt tables may be left out as a whole. -/
structure Deck (α : Type) where
  densities : List (Densities α) := []
  wet : List (GasTable α) := []
  humid : List (GasTable α) := []
  salt : List (SaltTable α) := []
  deriving BEq, DecidableEq, Repr

namespace Deck

variable {α : Type}

def regionCount (d : Deck α) : Nat :=
  d.densities.length

def gasTables (d : Deck α) : Family → List (GasTable α)
  | .wet => d.wet
  | .humid => d.humid

def hasSalt (d : Deck α) : Bool :=
  !d.salt.isEmpty

structure Entry (α : Type) where
  id : Region.Id
  densities : Densities α
  wet : GasTable α
  humid : GasTable α
  salt : Option (SaltTable α)

def Entry.gasTable (e : Entry α) : Family → GasTable α
  | .wet => e.wet
  | .humid => e.humid

def lookupSalt (d : Deck α) (i : Nat) : Option (Option (SaltTable α)) :=
  if d.hasSalt then d.salt[i]?.map some else some none

/-- The tables of one region, each looked up by its position; none if a list has ended before. -/
def lookup (d : Deck α) (i : Nat) : Option (Entry α) := do
  let densities ← d.densities[i]?
  let wet ← d.wet[i]?
  let humid ← d.humid[i]?
  let salt ← d.lookupSalt i
  return ⟨.ofNat i, densities, wet, humid, salt⟩

def entries (d : Deck α) : List (Entry α) :=
  (List.range d.regionCount).filterMap d.lookup

end Deck

end ReservoirGas
