import ReservoirGas.Decimal
import ReservoirGas.Document

namespace ReservoirGas

namespace Json

structure Numeral where
  negative : Bool
  whole : List Char
  fraction : Option (List Char)
  exponent : Option Int

/-- Appends digits to a significand while it stays below `2 ^ 64`, and counts those it took. -/
def gather : Nat → List Char → Nat × Nat
  | n, [] => (n, 0)
  | n, c :: r =>
    let m := 10 * n + (c.toNat - '0'.toNat)
    if m < UInt64.size then
      let (k, taken) := gather m r
      (k, taken + 1)
    else (n, 0)

def powerOfTen (n : Nat) : Float :=
  Float.ofScientific 1 false n

def maxStep : Nat := 308

def scale : Nat → Float → Int → Option Float
  | 0, x, _ => some x
  | fuel + 1, x, e =>
    if e.natAbs ≤ maxStep then
      if 0 ≤ e then
        let y := x * powerOfTen e.natAbs
        if y.isInf then none else some y
      else some (x / powerOfTen e.natAbs)
    else if x == 0 then some x
    else if 0 ≤ e then none
    else scale fuel (x / powerOfTen maxStep) (e + maxStep)

/-- The float of a significand and an exponent. After three divisions nothing is left of a significand
of 64 bits. -/
def Numeral.float (negative : Bool) (significand : Nat) (exponent : Int) : Document :=
  match scale 4 (Float.ofNat significand) exponent with
  | some x => .float (if negative then -x else x)
  | none => .unreadable

/-- The value of a number. Whole numbers of 64 bits are integers, but `-0` keeps its sign as a float. -/
def Numeral.value (n : Numeral) : Document :=
  let (significand, taken) := gather 0 n.whole
  let dropped : Int := (n.whole.length - taken : Nat)
  match n.fraction, n.exponent with
  | none, none =>
    if dropped ≠ 0 then float n.negative significand dropped
    else if !n.negative then .int significand
    else if significand = 0 ∨ UInt64.size / 2 < significand then .float (-(Float.ofNat significand))
    else .int (-significand)
  | fraction, exponent =>
    let (significand, taken) := gather significand (fraction.getD [])
    float n.negative significand (dropped - taken + exponent.getD 0)

def isSpace (c : Char) : Bool :=
  c == ' ' || c == '\t' || c == '\n' || c == '\r'

def skipSpace (cs : List Char) : List Char :=
  cs.dropWhile isSpace

def digitRun (cs : List Char) : List Char × List Char :=
  (cs.takeWhile Char.isDigit, cs.dropWhile Char.isDigit)

def wholePart (cs : List Char) : Option (List Char × List Char) :=
  match digitRun cs with
  | ([], _) => none
  | ('0' :: _ :: _, _) => none
  | r => some r

def fractionPart : List Char → Option (Option (List Char) × List Char)
  | '.' :: cs =>
    match digitRun cs with
    | ([], _) => none
    | (ds, r) => some (some ds, r)
  | cs => some (none, cs)

def exponentPart : List Char → Option (Option Int × List Char)
  | [] => some (none, [])
  | c :: cs =>
    if c == 'e' || c == 'E' then
      let (negative, cs) := match cs with
        | '-' :: r => (true, r)
        | '+' :: r => (false, r)
        | r => (false, r)
      match digitRun cs with
      | ([], _) => none
      | (ds, r) =>
        let n : Int := Decimal.ofDigits ds
        some (some (if negative then -n else n), r)
    else some (none, c :: cs)

def numeral? (cs : List Char) : Option (Numeral × List Char) := do
  let (negative, cs) := match cs with
    | '-' :: r => (true, r)
    | r => (false, r)
  let (whole, cs) ← wholePart cs
  let (fraction, cs) ← fractionPart cs
  let (exponent, cs) ← exponentPart cs
  return (⟨negative, whole, fraction, exponent⟩, cs)

def hex4? (a b c d : Char) : Option Nat := do
  return ((((← Decimal.hexDigit? a) * 16 + (← Decimal.hexDigit? b)) * 16 + (← Decimal.hexDigit? c)) * 16 + (← Decimal.hexDigit? d))

def simpleEscape? : Char → Option Char
  | '"' => some '"'
  | '\\' => some '\\'
  | '/' => some '/'
  | 'b' => some '\x08'
  | 'f' => some '\x0c'
  | 'n' => some '\n'
  | 'r' => some '\r'
  | 't' => some '\t'
  | _ => none

def isHighSurrogate (n : Nat) : Bool :=
  0xD800 ≤ n && n < 0xDC00

def isLowSurrogate (n : Nat) : Bool :=
  0xDC00 ≤ n && n < 0xE000

/-- The units of a string after its opening quote, up to the closing one: a character each, or a number
written with four hexadecimal digits. -/
def stringUnits : List Char → Option (List (Char ⊕ Nat) × List Char)
  | [] => none
  | '"' :: r => some ([], r)
  | '\\' :: 'u' :: a :: b :: c :: d :: r => do
    let n ← hex4? a b c d
    let (us, r) ← stringUnits r
    return (.inr n :: us, r)
  | '\\' :: c :: r => do
    let c ← simpleEscape? c
    let (us, r) ← stringUnits r
    return (.inl c :: us, r)
  | c :: r =>
    if c.toNat < 0x20 || c == '\\' then none
    else do
      let (us, r) ← stringUnits r
      return (.inl c :: us, r)

def joinUnits : List (Char ⊕ Nat) → Option (List Char)
  | [] => some []
  | .inl c :: r => (joinUnits r).map (c :: ·)
  | .inr n :: .inr m :: r =>
    if isHighSurrogate n then
      if isLowSurrogate m then
        (joinUnits r).map (Char.ofNat (0x10000 + (n - 0xD800) * 0x400 + (m - 0xDC00)) :: ·)
      else none
    else if isLowSurrogate n then none
    else (joinUnits (.inr m :: r)).map (Char.ofNat n :: ·)
  | .inr n :: r =>
    if isHighSurrogate n || isLowSurrogate n then none else (joinUnits r).map (Char.ofNat n :: ·)

def string? (cs : List Char) : Option (Document × List Char) := do
  let (us, r) ← stringUnits cs
  match joinUnits us with
  | some s => return (.text (String.ofList s), r)
  | none => return (.unreadable, r)

def word? (word : String) (cs : List Char) : Option (List Char) :=
  if word.toList.isPrefixOf cs then some (cs.drop word.length) else none

mutual

def value? (fuel : Nat) (cs : List Char) : Option (Document × List Char) :=
  match fuel with
  | 0 => none
  | fuel + 1 =>
    match skipSpace cs with
    | '"' :: r => string? r
    | '[' :: r =>
      match skipSpace r with
      | ']' :: r => some (.list [], r)
      | r => do
        let (items, r) ← items? fuel r
        return (.list items, r)
    | '\x7b' :: r =>
      match skipSpace r with
      | '\x7d' :: r => some (.map [], r)
      | r => do
        let (entries, r) ← entries? fuel r
        return (.map entries, r)
    | 'n' :: r => (word? "ull" r).map fun r ↦ (.null, r)
    | 't' :: r => (word? "rue" r).map fun r ↦ (.bool true, r)
    | 'f' :: r => (word? "alse" r).map fun r ↦ (.bool false, r)
    | r => (numeral? r).map fun (n, r) ↦ (n.value, r)

def items? (fuel : Nat) (cs : List Char) : Option (List Document × List Char) :=
  match fuel with
  | 0 => none
  | fuel + 1 => do
    let (d, r) ← value? fuel cs
    match skipSpace r with
    | ',' :: r =>
      let (ds, r) ← items? fuel r
      return (d :: ds, r)
    | ']' :: r => return ([d], r)
    | _ => none

def entries? (fuel : Nat) (cs : List Char) : Option (List (Document × Document) × List Char) :=
  match fuel with
  | 0 => none
  | fuel + 1 =>
    match skipSpace cs with
    | '"' :: r => do
      let (k, r) ← string? r
      match skipSpace r with
      | ':' :: r =>
        let (v, r) ← value? fuel r
        match skipSpace r with
        | ',' :: r =>
          let (es, r) ← entries? fuel r
          return ((k, v) :: es, r)
        | '\x7d' :: r => return ([(k, v)], r)
        | _ => none
      | _ => none
    | _ => none

end

def read? (s : String) : Option Document := do
  let cs := s.toList
  let (d, r) ← value? (2 * cs.length + 2) cs
  if (skipSpace r).isEmpty then some d else none

/-- Floats have a point or an exponent, and a sign in front of every exponent. What is not a number is
written as null. -/
def floatStyle : Decimal.Style where
  plain := some (-5, 15)
  pointZero := true
  plus := true
  tie := .even
  nan := "null"
  infinity := "null"

def floatText (x : Float) : String :=
  if x.isFinite then floatStyle.write x else "null"

example : [0.00001, 0.000001, 1e15, 1e16, 12345.75].map floatText =
    ["0.00001", "1e-6", "1000000000000000.0", "1e+16", "12345.75"] := by decide +kernel

def hexChar (n : Nat) : Char :=
  (Nat.toDigits 16 n).headD '0'

def escape (c : Char) : List Char :=
  match c with
  | '"' => ['\\', '"']
  | '\\' => ['\\', '\\']
  | '\n' => ['\\', 'n']
  | '\r' => ['\\', 'r']
  | '\t' => ['\\', 't']
  | '\x08' => ['\\', 'b']
  | '\x0c' => ['\\', 'f']
  | c =>
    if c.toNat < 0x20 then ['\\', 'u', '0', '0', hexChar (c.toNat / 16), hexChar (c.toNat % 16)] else [c]

def quote (s : String) : String :=
  String.ofList ('"' :: (s.toList.flatMap escape ++ ['"']))

def newLine (depth : Nat) : String :=
  String.ofList ('\n' :: List.replicate (2 * depth) ' ')

mutual

def render (depth : Nat) : Document → String
  | .null => "null"
  | .bool b => if b then "true" else "false"
  | .int n => toString n
  | .float x => floatText x
  | .text s => quote s
  | .plain s => quote s
  | .list [] => "[]"
  | .list (d :: ds) =>
    "[" ++ newLine (depth + 1) ++ render (depth + 1) d ++ renderItems (depth + 1) ds ++ newLine depth ++ "]"
  | .map [] => "\x7b\x7d"
  | .map ((k, v) :: es) =>
    "\x7b" ++ newLine (depth + 1) ++ render (depth + 1) k ++ ": " ++ render (depth + 1) v ++
      renderEntries (depth + 1) es ++ newLine depth ++ "\x7d"
  | .unreadable => "null"

def renderItems (depth : Nat) : List Document → String
  | [] => ""
  | d :: ds => "," ++ newLine depth ++ render depth d ++ renderItems depth ds

def renderEntries (depth : Nat) : List (Document × Document) → String
  | [] => ""
  | (k, v) :: es =>
    "," ++ newLine depth ++ render depth k ++ ": " ++ render depth v ++ renderEntries depth es

end

def write (d : Document) : String :=
  render 0 d

end Json

end ReservoirGas
