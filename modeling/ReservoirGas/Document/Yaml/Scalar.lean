import ReservoirGas.Decimal
import ReservoirGas.Document

namespace ReservoirGas

namespace Yaml

structure Mark where
  char : Char
  line : Nat
  column : Nat
  offset : Nat

def isBlank (c : Char) : Bool :=
  c == ' ' || c == '\t'

def isBreak (c : Char) : Bool :=
  c == '\n' || c == '\u2028' || c == '\u2029'

def orderMark : Char := '\ufeff'

def isAllowed (c : Char) : Bool :=
  let n := c.toNat
  n == 0x9 || n == 0xA || n == 0xD || (0x20 ≤ n && n ≤ 0x7E) || n == 0x85 ||
    (0xA0 ≤ n && n ≤ 0xFFFD) || 0x10000 ≤ n

def marksFrom (line column offset : Nat) : List Char → List Mark
  | [] => []
  | '\r' :: '\n' :: r => ⟨'\n', line, column, offset⟩ :: marksFrom (line + 1) 0 (offset + 2) r
  | c :: r =>
    let next := offset + c.utf8Size
    let c := if c == '\r' || c == '\u0085' then '\n' else c
    ⟨c, line, column, offset⟩ ::
      if isBreak c then marksFrom (line + 1) 0 next r
      else marksFrom line (column + 1) next r

def marks? (s : String) : Option (List Mark) :=
  if s.toList.all isAllowed then some (marksFrom 0 0 0 s.toList) else none

def atSpace : List Mark → Bool
  | [] => true
  | m :: _ => isBlank m.char || isBreak m.char

def atSeparator (c : Char) : List Mark → Bool
  | a :: b :: d :: r => a.column == 0 && a.char == c && b.char == c && d.char == c && atSpace r
  | _ => false

def atAnySeparator (ms : List Mark) : Bool :=
  atSeparator '-' ms || atSeparator '.' ms

/-- Passes over blanks, comments and line breaks up to the next token. Tabs count as blanks where no
block structure can begin, and after a line break block structure can begin again; the first component
says whether it can where the token stands. -/
def skipSpace (inFlow inComment keyAllowed : Bool) : List Mark → Bool × List Mark
  | [] => (keyAllowed, [])
  | m :: r =>
    if isBreak m.char then skipSpace inFlow false (!inFlow || keyAllowed) r
    else if inComment then skipSpace inFlow true keyAllowed r
    else if m.char == orderMark && m.column == 0 then skipSpace inFlow false keyAllowed r
    else if m.char == ' ' || (m.char == '\t' && (inFlow || !keyAllowed)) then
      skipSpace inFlow false keyAllowed r
    else if m.char == '#' then skipSpace inFlow true keyAllowed r
    else (keyAllowed, m :: r)

/-- The space since the last character of a scalar, latest first: blanks within a line, or a line break
and further ones. An escaped line break leaves no trace. -/
inductive Gap
  | blanks (cs : List Char)
  | breaks (first : Option Char) (more : List Char)

namespace Gap

def isEmpty : Gap → Bool
  | blanks [] => true
  | _ => false

def hasBreak : Gap → Bool
  | blanks _ => false
  | breaks .. => true

def addBlank (c : Char) : Gap → Gap
  | blanks cs => blanks (c :: cs)
  | g => g

def addBreak (c : Char) : Gap → Gap
  | blanks _ => breaks (some c) []
  | breaks first more => breaks first (c :: more)

def keep (acc : List Char) : Gap → List Char
  | blanks cs => cs ++ acc
  | breaks first more => more ++ first.toList ++ acc

/-- Writes a gap after the characters `acc`, all latest first. A single line break becomes a blank, and
of several the first one is dropped. -/
def fold (acc : List Char) : Gap → List Char
  | blanks cs => cs ++ acc
  | breaks (some '\n') [] => ' ' :: acc
  | breaks (some '\n') more => more ++ acc
  | breaks first more => more ++ first.toList ++ acc

end Gap

def isFlowIndicator (c : Char) : Bool :=
  c == ',' || c == '[' || c == ']' || c == '\x7b' || c == '\x7d'

structure Gathered where
  text : String
  gap : Gap
  rest : List Mark

/-- A scalar without quotes, whose lines after the first one stand at column `indent` or further right
unless it is inside of brackets. -/
def gatherPlain (inFlow : Bool) (indent : Int) (acc : List Char) (gap : Gap) :
    List Mark → Option Gathered
  | [] => some ⟨String.ofList acc.reverse, gap, []⟩
  | m :: r =>
    let c := m.char
    if isBlank c then
      if gap.hasBreak && c == '\t' && m.column < indent then none
      else gatherPlain inFlow indent acc (gap.addBlank c) r
    else if isBreak c then gatherPlain inFlow indent acc (gap.addBreak c) r
    else
      let next := (r.head?.map Mark.char).getD ' '
      let outdented := !inFlow && m.column < indent
      if !gap.isEmpty && (outdented || atAnySeparator (m :: r) || c == '#') then
        some ⟨String.ofList acc.reverse, gap, m :: r⟩
      else if inFlow && c == ':' && (isFlowIndicator next || next == '?') then none
      else if (c == ':' && atSpace r) || (inFlow && isFlowIndicator c) then
        some ⟨String.ofList acc.reverse, gap, m :: r⟩
      else gatherPlain inFlow indent (c :: gap.fold acc) (.blanks []) r

def escaped? : Char → Option Char
  | '0' => some '\x00'
  | 'a' => some '\x07'
  | 'b' => some '\x08'
  | 't' => some '\t'
  | '\t' => some '\t'
  | 'n' => some '\n'
  | 'v' => some '\x0b'
  | 'f' => some '\x0c'
  | 'r' => some '\r'
  | 'e' => some '\x1b'
  | ' ' => some ' '
  | '"' => some '"'
  | '/' => some '/'
  | '\\' => some '\\'
  | 'N' => some '\u0085'
  | '_' => some '\u00a0'
  | 'L' => some '\u2028'
  | 'P' => some '\u2029'
  | _ => none

def escapeWidth? : Char → Option Nat
  | 'x' => some 2
  | 'u' => some 4
  | 'U' => some 8
  | _ => none

inductive QuoteState
  | inside
  | afterQuote
  | afterBackslash
  | inNumber (left number : Nat)
  deriving DecidableEq

/-- A scalar in quotes, after the opening one. Only double quotes know escapes; a single quote is written
twice. No line of it separates documents. -/
def gatherQuoted (double : Bool) (state : QuoteState) (acc : List Char) (gap : Gap) :
    List Mark → Option Gathered
  | [] => if state = .afterQuote then some ⟨String.ofList acc.reverse, .blanks [], []⟩ else none
  | m :: r =>
    let c := m.char
    match state with
    | .inside =>
      if atAnySeparator (m :: r) then none
      else if isBlank c then gatherQuoted double .inside acc (gap.addBlank c) r
      else if isBreak c then gatherQuoted double .inside acc (gap.addBreak c) r
      else if c == (if double then '"' else '\'') then
        gatherQuoted double .afterQuote (gap.fold acc) (.blanks []) r
      else if double && c == '\\' then
        gatherQuoted double .afterBackslash (gap.fold acc) (.blanks []) r
      else gatherQuoted double .inside (c :: gap.fold acc) (.blanks []) r
    | .afterQuote =>
      if !double && c == '\'' then gatherQuoted double .inside (c :: acc) gap r
      else some ⟨String.ofList acc.reverse, .blanks [], m :: r⟩
    | .afterBackslash =>
      if isBreak c then gatherQuoted double .inside acc (.breaks none []) r
      else match escaped? c, escapeWidth? c with
        | some e, _ => gatherQuoted double .inside (e :: acc) gap r
        | none, some width => gatherQuoted double (.inNumber width 0) acc gap r
        | none, none => none
    | .inNumber left number =>
      match Decimal.hexDigit? c with
      | none => none
      | some d =>
        let number := number * 16 + d
        if 1 < left then gatherQuoted double (.inNumber (left - 1) number) acc gap r
        else if number.isValidChar then gatherQuoted double .inside (Char.ofNat number :: acc) gap r
        else none

inductive Ending
  | none
  | one
  | all
  deriving DecidableEq, Repr

def Ending.close (acc : List Char) : Ending → Gap → List Char
  | .none, _ => acc
  | .one, .breaks first _ => first.toList ++ acc
  | .all, .breaks first more => more ++ first.toList ++ acc
  | _, .blanks _ => acc

def endingOf? (c : Char) : Option Ending :=
  if c == '+' then some .all else if c == '-' then some .none else none

/-- The signs behind the bar of a block scalar, in either order: how it ends, and by how many columns it
is indented, or zero where its lines tell. -/
def blockSigns? (ms : List Mark) : Option (Ending × Nat × List Mark) :=
  let digit (m : Mark) := m.char.isDigit
  let width (m : Mark) := m.char.toNat - '0'.toNat
  let (ending, indentation, r) := match ms with
    | [] => (.one, none, [])
    | m :: r =>
      match endingOf? m.char with
      | some e =>
        match r with
        | n :: r' => if digit n then (e, some (width n), r') else (e, none, r)
        | [] => (e, none, [])
      | none =>
        if digit m then
          match r.head?.bind fun n ↦ endingOf? n.char with
          | some e => (e, some (width m), r.tail)
          | none => (.one, some (width m), r)
        else (.one, none, ms)
  if indentation = some 0 then none else some (ending, indentation.getD 0, r)

def skipLineEnd? (ms : List Mark) : Option (List Mark) :=
  match ms.dropWhile fun m ↦ isBlank m.char with
  | [] => some []
  | m :: r =>
    if isBreak m.char then some r
    else if m.char == '#' then some ((r.dropWhile fun m ↦ !isBreak m.char).tail)
    else none

def blockColumn? (farthest : Nat) : List Mark → Option Nat
  | [] => some farthest
  | m :: r =>
    if m.char == ' ' then blockColumn? (max farthest (m.column + 1)) r
    else if isBreak m.char then blockColumn? farthest r
    else if m.char == '\t' then none
    else some farthest

/-- The lines of a block scalar at the column `indent`. Where they are folded, a line break between two
lines that do not begin with a blank becomes a blank itself. The gap has a break where a line begins;
`blank` says whether the last line began with a blank. -/
def gatherBlock (folded : Bool) (ending : Ending) (indent : Nat) (acc : List Char) (gap : Gap)
    (blank : Bool) : List Mark → Option Gathered
  | [] => some ⟨String.ofList (ending.close acc gap).reverse, .blanks [], []⟩
  | m :: r =>
    let c := m.char
    if isBreak c then gatherBlock folded ending indent acc (gap.addBreak c) blank r
    else if !gap.hasBreak then gatherBlock folded ending indent (c :: acc) gap blank r
    else if c == ' ' && m.column < indent then gatherBlock folded ending indent acc gap blank r
    else if c == '\t' && m.column < indent then none
    else if m.column == indent then
      let acc := if folded && !blank && !isBlank c then gap.fold acc else gap.keep acc
      gatherBlock folded ending indent (c :: acc) (.blanks []) (isBlank c) r
    else some ⟨String.ofList (ending.close acc gap).reverse, .blanks [], m :: r⟩

def block? (folded : Bool) (outer : Int) (ms : List Mark) : Option Gathered := do
  let (ending, indentation, r) ← blockSigns? ms
  let r ← skipLineEnd? r
  let indent ← if indentation = 0 then
      (blockColumn? 0 r).map fun n ↦ max n (max 1 (outer + 1).toNat)
    else some (outer.toNat + indentation)
  gatherBlock folded ending indent [] (.breaks none []) false r

def isNullText (s : String) : Bool :=
  s == "null" || s == "Null" || s == "NULL" || s == "~"

def bool? (s : String) : Option Bool :=
  if s == "true" || s == "True" || s == "TRUE" then some true
  else if s == "false" || s == "False" || s == "FALSE" then some false
  else none

def splitSign : List Char → Bool × List Char
  | '-' :: r => (true, r)
  | '+' :: r => (false, r)
  | r => (false, r)

def isPaddedDigits (s : String) : Bool :=
  match (splitSign s.toList).2 with
  | '0' :: c :: r => (c :: r).all Char.isDigit
  | _ => false

def natOfDigits? (base : Nat) : List Char → Option Nat
  | [] => none
  | cs => cs.foldlM (fun n c ↦ do
      let d ← Decimal.hexDigit? c
      if d < base then some (n * base + d) else none) 0

def natural? : List Char → Option Nat
  | '0' :: 'x' :: r => natOfDigits? 16 r
  | '0' :: 'o' :: r => natOfDigits? 8 r
  | '0' :: 'b' :: r => natOfDigits? 2 r
  | cs => natOfDigits? 10 cs

def int? (bits : Nat) (s : String) : Option Int :=
  if isPaddedDigits s then none
  else match splitSign s.toList with
    | (true, r) => do
      let n ← natural? r
      if n ≤ Nat.pow 2 (bits - 1) then some (-(n : Int)) else none
    | (false, r) => do
      let n ← natural? r
      if n < Nat.pow 2 bits then some (n : Int) else none

def unsigned? (s : String) : Option Nat :=
  if (splitSign s.toList).1 then none else (int? 64 s).map Int.toNat

def decimal? (cs : List Char) : Option Decimal := do
  let whole := cs.takeWhile Char.isDigit
  let (fraction, cs) := match cs.dropWhile Char.isDigit with
    | '.' :: r => (r.takeWhile Char.isDigit, r.dropWhile Char.isDigit)
    | r => ([], r)
  let digits := whole ++ fraction
  if digits.isEmpty then none
  let exponent : Int ← match cs with
    | [] => some 0
    | e :: r =>
      if e == 'e' || e == 'E' then
        let (negative, ds) := splitSign r
        if ds.isEmpty || !ds.all Char.isDigit then none
        else
          let n : Int := Decimal.ofDigits ds
          some (if negative then -n else n)
      else none
  return ⟨Decimal.ofDigits digits, exponent - (fraction.length : Nat)⟩

/-- The float that is nearest to a decimal. Beyond these bounds of the leading digit it is zero or too
large, which needs no arithmetic with large powers. -/
def nearestFloat (d : Decimal) : Float :=
  if d.digits = 0 ∨ d.magnitude < -400 then 0
  else if 400 < d.magnitude then 1 / 0
  else d.toFloat

def float? (s : String) : Option Float :=
  match splitSign s.toList with
  | (negative, cs) =>
    if cs == ".inf".toList || cs == ".Inf".toList || cs == ".INF".toList then
      some (if negative then -(1 / 0) else 1 / 0)
    else if s == ".nan" || s == ".NaN" || s == ".NAN" then some (0 / 0)
    else do
      let x := nearestFloat (← decimal? cs)
      if x.isFinite then some (if negative then -x else x) else none

/-- What a scalar without quotes stands for where any kind of value may stand. Integers of more than 64
bits cannot be read, and beyond 128 bits they are floats. A zero behind a minus sign is no natural number,
so it is the float zero. -/
def settle (s : String) : Document :=
  if s.isEmpty || isNullText s then .null
  else match bool? s, int? 64 s, int? 128 s, float? s with
    | some b, _, _, _ => .bool b
    | none, some n, _, _ => if n = 0 ∧ (splitSign s.toList).1 then .float 0 else .int n
    | none, none, some _, _ => .unreadable
    | none, none, none, some x => if isPaddedDigits s then .text s else .float x
    | none, none, none, none => .text s

end Yaml

end ReservoirGas
