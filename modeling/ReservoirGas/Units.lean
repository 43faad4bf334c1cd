namespace ReservoirGas

/-- Four operations, IEEE-style comparisons and the tests of a number. Each has an answer for every
argument, so a comparison is a `Bool` and need not come from an order. -/
class Scalar (α : Type) extends Add α, Sub α, Mul α, Div α, BEq α where
  zero : α
  one : α
  two : α
  undefined : α
  le : α → α → Bool
  lt : α → α → Bool
  isFinite : α → Bool
  isNaN : α → Bool

instance : Scalar Float where
  zero := 0
  one := 1
  two := 2
  undefined := 0 / 0
  le := Float.le
  lt := Float.lt
  isFinite := Float.isFinite
  isNaN := Float.isNaN

namespace Scalar

variable {α : Type} [Scalar α]

def isPositive (x : α) : Bool :=
  isFinite x && lt zero x

end Scalar

inductive NumericError (α : Type)
  | nonFinite (what : String) (value : α)
  | invalidArgument (what : String)
  | invariant (what : String)
  deriving BEq, DecidableEq, Repr

def ensureFinite {α : Type} [Scalar α] (what : String) (x : α) : Except (NumericError α) α :=
  if Scalar.isFinite x then .ok x else .error (.nonFinite what x)

def NumericError.message {α : Type} (text : α → String) : NumericError α → String
  | .nonFinite what value => s!"Non-finite value for {what}: {text value}"
  | .invalidArgument what => s!"Invalid argument: {what}"
  | .invariant what => s!"Invariant violated: {what}"

structure Pressure where
  pascal : Float

def Pressure.bar (p : Pressure) : Float :=
  p.pascal / 1e5

structure Density where
  kgPerCubicMetre : Float

structure Densities (α : Type) where
  oil : α
  gas : α
  water : α
  deriving BEq, DecidableEq, Repr

namespace Region

structure Id where
  code : UInt32
  code_ne_zero : code ≠ 0
  deriving DecidableEq

namespace Id

def maxIndex : Nat := UInt32.size - 2

theorem code_ofNat_ne_zero (n : Nat) : UInt32.ofNat (min n maxIndex + 1) ≠ 0 := by
  intro h
  have h' : (min n maxIndex + 1) % UInt32.size = 0 := congrArg UInt32.toNat h
  simp only [maxIndex, UInt32.size] at h'
  omega

def ofNat (n : Nat) : Id :=
  ⟨UInt32.ofNat (min n maxIndex + 1), code_ofNat_ne_zero n⟩

def ofIndex (index : UInt32) : Id :=
  ofNat index.toNat

def index (id : Id) : UInt32 :=
  id.code - 1

def toNat (id : Id) : Nat :=
  id.index.toNat

protected def le (a b : Id) : Bool :=
  decide (a.code ≤ b.code)

instance : ToString Id := ⟨fun id ↦ toString id.toNat⟩

end Id

end Region

end ReservoirGas
