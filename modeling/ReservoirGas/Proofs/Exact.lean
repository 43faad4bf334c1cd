import ReservoirGas.Proofs.Axis
import Mathlib.Tactic.Linarith
import Mathlib.Data.Rat.Defs
import Mathlib.Algebra.Order.Ring.Rat

namespace ReservoirGas

/-- A rational number, or the outcome of a computation that has none. -/
inductive Exact
  | number (q : ℚ)
  | undefined
  deriving DecidableEq

namespace Exact

def lift (f : ℚ → ℚ → Exact) : Exact → Exact → Exact
  | number p, number q => f p q
  | _, _ => undefined

def test (r : ℚ → ℚ → Bool) : Exact → Exact → Bool
  | number p, number q => r p q
  | _, _ => false

def quotient (p q : ℚ) : Exact :=
  if q = 0 then undefined else number (p / q)

def isNumber : Exact → Bool
  | number _ => true
  | undefined => false

instance : Scalar Exact where
  add := lift fun p q ↦ number (p + q)
  sub := lift fun p q ↦ number (p - q)
  mul := lift fun p q ↦ number (p * q)
  div := lift quotient
  beq := test fun p q ↦ decide (p = q)
  zero := number 0
  one := number 1
  two := number 2
  undefined := undefined
  le := test fun p q ↦ decide (p ≤ q)
  lt := test fun p q ↦ decide (p < q)
  isFinite := isNumber
  isNaN x := !x.isNumber

@[simp] theorem zero_eq : (Scalar.zero : Exact) = number 0 := rfl

@[simp] theorem one_eq : (Scalar.one : Exact) = number 1 := rfl

@[simp] theorem two_eq : (Scalar.two : Exact) = number 2 := rfl

@[simp] theorem number_add (p q : ℚ) : number p + number q = number (p + q) := rfl

@[simp] theorem number_sub (p q : ℚ) : number p - number q = number (p - q) := rfl

@[simp] theorem number_mul (p q : ℚ) : number p * number q = number (p * q) := rfl

theorem number_div (p : ℚ) {q : ℚ} (hq : q ≠ 0) : number p / number q = number (p / q) :=
  if_neg hq

@[simp] theorem isFinite_number (p : ℚ) : Scalar.isFinite (number p) = true := rfl

@[simp] theorem lt_number_iff {p q : ℚ} : Scalar.lt (number p) (number q) = true ↔ p < q :=
  decide_eq_true_iff

@[simp] theorem le_number_iff {p q : ℚ} : Scalar.le (number p) (number q) = true ↔ p ≤ q :=
  decide_eq_true_iff

theorem isFinite_iff {x : Exact} : Scalar.isFinite x = true ↔ ∃ q, x = number q := by
  cases x with
  | number q => exact ⟨fun _ ↦ ⟨q, rfl⟩, fun _ ↦ rfl⟩
  | undefined => exact ⟨fun h ↦ absurd h Bool.false_ne_true, fun ⟨_, h⟩ ↦ nomatch h⟩

theorem isPositive_iff {x : Exact} : Scalar.isPositive x = true ↔ ∃ q, 0 < q ∧ x = number q := by
  cases x with
  | number q => simp [Scalar.isPositive]
  | undefined => exact ⟨fun h ↦ absurd h Bool.false_ne_true, fun ⟨_, _, h⟩ ↦ nomatch h⟩

theorem le_iff {x y : Exact} :
    Scalar.le x y = true ↔ ∃ p q, x = number p ∧ y = number q ∧ p ≤ q := by
  cases x with
  | undefined => exact ⟨fun h ↦ absurd h Bool.false_ne_true, fun ⟨_, _, h, _⟩ ↦ nomatch h⟩
  | number p =>
    cases y with
    | undefined => exact ⟨fun h ↦ absurd h Bool.false_ne_true, fun ⟨_, _, _, h, _⟩ ↦ nomatch h⟩
    | number q => simp

theorem lt_iff {x y : Exact} :
    Scalar.lt x y = true ↔ ∃ p q, x = number p ∧ y = number q ∧ p < q := by
  cases x with
  | undefined => exact ⟨fun h ↦ absurd h Bool.false_ne_true, fun ⟨_, _, h, _⟩ ↦ nomatch h⟩
  | number p =>
    cases y with
    | undefined => exact ⟨fun h ↦ absurd h Bool.false_ne_true, fun ⟨_, _, _, h, _⟩ ↦ nomatch h⟩
    | number q => simp

instance : Scalar.Ordered Exact where
  isNaN_of_isFinite x h := by
    obtain ⟨q, rfl⟩ := isFinite_iff.mp h
    rfl
  lt_iff x y := by
    cases x with
    | undefined => simp [lt_iff, le_iff]
    | number p =>
      cases y with
      | undefined => simp [lt_iff, le_iff]
      | number q =>
        rw [lt_number_iff, le_number_iff, ← Bool.not_eq_true, le_number_iff]
        exact lt_iff_le_not_ge
  le_total x y hx hy := by
    cases x with
    | undefined => cases hx
    | number p =>
      cases y with
      | undefined => cases hy
      | number q =>
        rw [le_number_iff, le_number_iff]
        exact le_total p q
  le_trans x y z hxy hyz := by
    obtain ⟨p, q, rfl, rfl, hpq⟩ := le_iff.mp hxy
    obtain ⟨q', r, hq, rfl, hqr⟩ := le_iff.mp hyz
    cases hq
    exact le_number_iff.mpr (hpq.trans hqr)
  not_isNaN_of_le x y h := by
    obtain ⟨p, q, rfl, rfl, -⟩ := le_iff.mp h
    exact ⟨rfl, rfl⟩

end Exact

end ReservoirGas
