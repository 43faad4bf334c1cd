namespace ReservoirGas

/-- The number `digits * 10 ^ exponent`. -/
structure Decimal where
  digits : Nat
  exponent : Int
  deriving DecidableEq, Repr

namespace Decimal

def powerOfTen (n : Nat) : Nat :=
  Nat.pow 10 n

def digitChars (n : Nat) : List Char :=
  Nat.toDigits 10 n

/-- How many digits a number has, none for zero. -/
def width (n : Nat) : Nat :=
  if n = 0 then 0 else (digitChars n).length

def trimmed : Nat → Decimal → Decimal
  | 0, d => d
  | fuel + 1, d =>
    if d.digits ≠ 0 ∧ d.digits % 10 = 0 then trimmed fuel ⟨d.digits / 10, d.exponent + 1⟩ else d

def trim (d : Decimal) : Decimal :=
  trimmed (width d.digits) d

def magnitude (d : Decimal) : Int :=
  d.exponent + ((digitChars d.digits).length - 1 : Nat)

def hexDigit? (c : Char) : Option Nat :=
  if c.isDigit then some (c.toNat - '0'.toNat)
  else if 'a' ≤ c ∧ c ≤ 'f' then some (c.toNat - 'a'.toNat + 10)
  else if 'A' ≤ c ∧ c ≤ 'F' then some (c.toNat - 'A'.toNat + 10)
  else none

def ofDigits (cs : List Char) : Nat :=
  cs.foldl (fun n c ↦ 10 * n + (c.toNat - '0'.toNat)) 0

def toFloat (d : Decimal) : Float :=
  Float.ofScientific d.digits (d.exponent < 0) d.exponent.natAbs

end Decimal

inductive Binary
  | nan
  | infinite
  /-- The magnitude `significand * 2 ^ exponent`. -/
  | finite (significand : Nat) (exponent : Int)
  deriving DecidableEq, Repr

namespace Binary

def powerOfTwo (n : Nat) : Nat :=
  Nat.pow 2 n

def fractionSize : Nat := powerOfTwo 52

def exponentSize : Nat := powerOfTwo 11

def leastExponent : Int := -1074

def isNegative (x : Float) : Bool :=
  x.toBits.toNat / (fractionSize * exponentSize) == 1

def ofFloat (x : Float) : Binary :=
  let bits := x.toBits.toNat
  let biased : Nat := bits / fractionSize % exponentSize
  let fraction : Nat := bits % fractionSize
  if biased = exponentSize - 1 then if fraction = 0 then infinite else nan
  else if biased = 0 then finite fraction leastExponent
  else finite (fraction + fractionSize) ((biased : Int) - 1075)

/-- A fraction of naturals whose value is `n * 2 ^ q`. -/
def fraction (n : Nat) (q : Int) : Nat × Nat :=
  if q < 0 then (n, powerOfTwo q.natAbs) else (n * powerOfTwo q.natAbs, 1)

end Binary

namespace Decimal

def leadingPower (num den : Nat) : Int :=
  if den ≤ num then ((width (num / den) : Nat) : Int) - 1
  else -(width ((den - 1) / num) : Nat)

def inUnits (num den : Nat) (k : Int) : Nat × Nat :=
  if k < 0 then (num * powerOfTen k.natAbs, den) else (num, den * powerOfTen k.natAbs)

/-- The natural number nearest to `num / den`; a tie goes to the even one. -/
def nearest (num den : Nat) : Nat :=
  let low := num / den
  let twice := 2 * (num % den)
  if den < twice ∨ (twice = den ∧ low % 2 = 1) then low + 1 else low

def roundTo (k : Int) (num den : Nat) : Decimal :=
  let (n, d) := inUnits num den k
  ⟨nearest n d, k⟩

def roundDigits (places : Nat) (num den : Nat) : Decimal :=
  if num = 0 then ⟨0, -(places : Int)⟩
  else
    let k := leadingPower num den - places
    let r := roundTo k num den
    if r.digits = powerOfTen (places + 1) then ⟨powerOfTen places, k + 1⟩ else r

inductive Tie
  | up
  | even
  deriving DecidableEq, Repr

/-- The reals that round to a number, as multiples of a common unit: the number itself is `middle`
units, and the ends count as well if `closed`. -/
structure Interval where
  low : Nat
  middle : Nat
  high : Nat
  closed : Bool

/-- The interval of `significand * 2 ^ exponent`, in units of a quarter of the last place. Below a power
of two the numbers lie twice as close. -/
def Interval.of (significand : Nat) (exponent : Int) : Interval :=
  let narrow := significand = Binary.fractionSize ∧ Binary.leastExponent < exponent
  ⟨4 * significand - (if narrow then 1 else 2), 4 * significand, 4 * significand + 2,
    significand % 2 = 0⟩

def Interval.holds (i : Interval) (num den c : Nat) : Bool :=
  if i.closed then i.low * num ≤ c * den && c * den ≤ i.high * num
  else i.low * num < c * den && c * den < i.high * num

/-- The point of the grid of step `10 ^ k` that is nearest to the middle, if the interval holds one of
the two that surround it; the unit of the interval is `2 ^ q`. -/
def Interval.point? (tie : Tie) (i : Interval) (q : Int) (k : Int) : Option Nat :=
  let (twos, dens) := Binary.fraction 1 q
  let (num, den) := inUnits twos dens k
  let below := i.middle * num / den
  let rest := i.middle * num % den
  let upper := den < 2 * rest ∨ (2 * rest = den ∧ (tie = .up ∨ below % 2 = 1))
  match i.holds num den below, i.holds num den (below + 1) with
  | true, true => some (if upper then below + 1 else below)
  | true, false => some below
  | false, true => some (below + 1)
  | false, false => none

/-- The fewest digits that read back as the number `significand * 2 ^ exponent`. Seventeen always do. -/
def shortest (tie : Tie) (significand : Nat) (exponent : Int) : Decimal :=
  if significand = 0 then ⟨0, 0⟩
  else
    let i := Interval.of significand exponent
    let (num, den) := Binary.fraction significand exponent
    let top := leadingPower num den
    let found := (List.range 17).findSome? fun (n : Nat) ↦
      let k := top - n
      (i.point? tie (exponent - 2) k).map fun c ↦ (⟨c, k⟩ : Decimal)
    (found.getD (roundTo (top - 16) num den)).trim

/-- The digits with a point in front of the last `places` of them and at least one digit before it. -/
def pointed (n places : Nat) : String :=
  let ds := digitChars n
  let ds := List.replicate (places + 1 - ds.length) '0' ++ ds
  let whole := ds.take (ds.length - places)
  let part := ds.drop (ds.length - places)
  String.ofList (if part.isEmpty then whole else whole ++ '.' :: part)

def positional (d : Decimal) : String :=
  if d.exponent < 0 then pointed d.digits d.exponent.natAbs
  else pointed (d.digits * powerOfTen d.exponent.natAbs) 0

def exponential (plus : Bool) (d : Decimal) : String :=
  let e := d.magnitude
  let sign := if e < 0 then "-" else if plus then "+" else ""
  s!"{pointed d.digits ((digitChars d.digits).length - 1)}e{sign}{e.natAbs}"

structure Style where
  /-- The magnitudes that are written without an exponent, first and last; all of them if absent. -/
  plain : Option (Int × Int)
  pointZero : Bool
  plus : Bool
  tie : Tie
  nan : String
  infinity : String

def Style.write (s : Style) (x : Float) : String :=
  let sign := if Binary.isNegative x then "-" else ""
  match Binary.ofFloat x with
  | .nan => s.nan
  | .infinite => sign ++ s.infinity
  | .finite m q =>
    let d := shortest s.tie m q
    let fits := s.plain.all fun (low, high) ↦ low ≤ d.magnitude && d.magnitude ≤ high
    if d.digits = 0 ∨ fits then
      sign ++ d.positional ++ if s.pointZero ∧ 0 ≤ d.exponent then ".0" else ""
    else sign ++ d.exponential s.plus

def fixedText (places : Nat) (x : Float) : String :=
  let sign := if Binary.isNegative x then "-" else ""
  match Binary.ofFloat x with
  | .nan => "NaN"
  | .infinite => sign ++ "inf"
  | .finite m q =>
    let (num, den) := Binary.fraction m q
    sign ++ pointed (roundTo (-(places : Int)) num den).digits places

def exponentText (places : Nat) (x : Float) : String :=
  let sign := if Binary.isNegative x then "-" else ""
  match Binary.ofFloat x with
  | .nan => "NaN"
  | .infinite => sign ++ "inf"
  | .finite m q =>
    let (num, den) := Binary.fraction m q
    if m = 0 then sign ++ pointed 0 places ++ "e0"
    else sign ++ (roundDigits places num den).exponential false

example : [0.125, 0.375, 2.5, 1e-9].map (fixedText 2) = ["0.12", "0.38", "2.50", "0.00"] := by
  decide +kernel

example : [0, 9.9999996e-7, 123456.789].map (exponentText 6) =
    ["0.000000e0", "1.000000e-6", "1.234568e5"] := by decide +kernel

end Decimal

end ReservoirGas
