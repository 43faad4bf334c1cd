import ReservoirGas.Decimal
import ReservoirGas.Document.Yaml.Scalar

namespace ReservoirGas

namespace Yaml

def isPrintable (c : Char) : Bool :=
  let n := c.toNat
  n == 0xA || (0x20 ≤ n && n ≤ 0x7E) || (0xA0 ≤ n && n ≤ 0xFFFD && n != 0xFEFF) || 0x10000 ≤ n

def isLeadingIndicator (c : Char) : Bool :=
  "#,[]\x7b\x7d&*!|>'\"%@\x60".toList.contains c

/-- Whether a colon or comment sign inside of a scalar would be taken for one. The first argument says
whether a blank comes before. -/
def hasInnerIndicator (afterBlank : Bool) : List Char → Bool
  | [] => false
  | c :: r =>
    let blankNext := r.head?.all isBlank
    (c == ':' && blankNext) || (c == '#' && afterBlank) || hasInnerIndicator (isBlank c) r

def hasPair (p q : Char → Bool) : List Char → Bool
  | a :: b :: r => (p a && q b) || hasPair p q (b :: r)
  | _ => false

def standsForText (s : String) : Bool :=
  !isPaddedDigits s &&
    match settle s with
    | .text _ => true
    | _ => false

def fitsPlain (cs : List Char) : Bool :=
  let first := cs.headD ' '
  let blankNext := (cs.drop 1).head?.all isBlank
  cs.all (fun c ↦ isPrintable c && !isBreak c) &&
    !isBlank first && !isBlank (cs.getLastD ' ') &&
    !isLeadingIndicator first && !((first == '-' || first == '?') && blankNext) &&
    !hasInnerIndicator false cs &&
    !"---".toList.isPrefixOf cs && !"...".toList.isPrefixOf cs

/-- Whether single quotes can hold a text, which lose blanks beside a line break. -/
def fitsSingle (cs : List Char) : Bool :=
  cs.all isPrintable && !hasPair isBlank isBreak cs && !hasPair isBreak isBlank cs

def fitsLines (cs : List Char) : Bool :=
  cs.all isPrintable && !hasPair isBlank isBreak cs && !isBlank (cs.getLastD ' ')

inductive TextForm
  | plain
  | single
  | double
  | lines
  deriving DecidableEq, Repr

def textForm (s : String) : TextForm :=
  let cs := s.toList
  if cs.contains '\n' then if fitsLines cs then .lines else .double
  else if standsForText s && fitsPlain cs then .plain
  else if fitsSingle cs then .single
  else .double

def keyForm (s : String) : TextForm :=
  if s.toList.any isBreak then .double else textForm s

def letter? : Char → Option Char
  | '\x00' => some '0'
  | '\x07' => some 'a'
  | '\x08' => some 'b'
  | '\t' => some 't'
  | '\n' => some 'n'
  | '\x0b' => some 'v'
  | '\x0c' => some 'f'
  | '\r' => some 'r'
  | '\x1b' => some 'e'
  | '"' => some '"'
  | '\\' => some '\\'
  | '\u0085' => some 'N'
  | '\u2028' => some 'L'
  | '\u2029' => some 'P'
  | _ => none

def hexText (width n : Nat) : List Char :=
  let ds := (Nat.toDigits 16 n).map Char.toUpper
  List.replicate (width - ds.length) '0' ++ ds

def escape (c : Char) : List Char :=
  match letter? c with
  | some l => ['\\', l]
  | none =>
    if isPrintable c then [c]
    else if c.toNat < 0x100 then '\\' :: 'x' :: hexText 2 c.toNat
    else if c.toNat < 0x10000 then '\\' :: 'u' :: hexText 4 c.toNat
    else '\\' :: 'U' :: hexText 8 c.toNat

def inDoubleQuotes (cs : List Char) : List Char :=
  '"' :: (cs.flatMap escape ++ ['"'])

def indentLines (column : Nat) (begins : Bool) : List Char → List Char
  | [] => []
  | c :: r =>
    if isBreak c then c :: indentLines column true r
    else if begins then List.replicate column ' ' ++ c :: indentLines column false r
    else c :: indentLines column false r

def inSingleQuotes (column : Nat) (cs : List Char) : List Char :=
  '\'' :: indentLines column false ((cs.flatMap fun c ↦ if c == '\'' then [c, c] else [c]) ++ ['\''])

/-- The signs behind the bar: the indentation if the text does not begin with a visible character, and
whether no line break, one or all of them end the text. -/
def linesHeader (cs : List Char) : List Char :=
  let indentation := if cs.head?.any fun c ↦ isBlank c || isBreak c then ['2'] else []
  let ending := match cs.reverse with
    | [] => ['-']
    | c :: r => if !isBreak c then ['-'] else if r.head?.all isBreak then ['+'] else []
  indentation ++ ending

def inLines (column : Nat) (cs : List Char) : List Char :=
  '|' :: (linesHeader cs ++ '\n' :: indentLines column true cs) ++
    if isBreak (cs.getLastD ' ') then [] else ['\n']

def textLine (column : Nat) (s : String) : String :=
  match textForm s with
  | .plain => s ++ "\n"
  | .single => String.ofList (inSingleQuotes column s.toList) ++ "\n"
  | .double => String.ofList (inDoubleQuotes s.toList) ++ "\n"
  | .lines => String.ofList (inLines column s.toList)

def keyText (s : String) : String :=
  match keyForm s with
  | .plain => s
  | .single => String.ofList (inSingleQuotes 0 s.toList)
  | _ => String.ofList (inDoubleQuotes s.toList)

example : ["it's", "true", "007", "", "a: b", "'q'", "tab\t", "\u00001\ufeff"].map (textLine 2) =
    ["it's\n", "'true'\n", "'007'\n", "''\n", "'a: b'\n", "'''q'''\n", "\"tab\\t\"\n",
      "\"\\01\\uFEFF\"\n"] := by decide +kernel

example : ["a\nb", "a\n", " a\n\nb\n\n", "a \nb"].map (textLine 2) =
    ["|-\n  a\n  b\n", "|\n  a\n", "|2+\n   a\n\n  b\n\n", "\"a \\nb\"\n"] := by decide +kernel

def floatStyle : Decimal.Style where
  plain := some (-5, 15)
  pointZero := true
  plus := false
  tie := .even
  nan := ".nan"
  infinity := ".inf"

example : [0.00001, 0.000001, 1e15, 1e16, -1 / 0].map floatStyle.write =
    ["0.00001", "1e-6", "1000000000000000.0", "1e16", "-.inf"] := by decide +kernel

def word : Document → String
  | .null => "null"
  | .bool b => if b then "true" else "false"
  | .int n => toString n
  | .float x => floatStyle.write x
  | .text s => keyText s
  | .plain s => s
  | .list _ => "[]"
  | .map _ => "\x7b\x7d"
  | .unreadable => "null"

def scalarLine (column : Nat) : Document → String
  | .text s => textLine column s
  | d => word d ++ "\n"

def blanks (column : Nat) : String :=
  String.ofList (List.replicate column ' ')

mutual

def render (column : Nat) : Document → String
  | .list (d :: ds) => "- " ++ render (column + 2) d ++ renderItems column ds
  | .map ((k, v) :: es) => word k ++ ":" ++ renderValue column v ++ renderEntries column es
  | d => scalarLine column d

def renderItems (column : Nat) : List Document → String
  | [] => ""
  | d :: ds => blanks column ++ "- " ++ render (column + 2) d ++ renderItems column ds

def renderEntries (column : Nat) : List (Document × Document) → String
  | [] => ""
  | (k, v) :: es =>
    blanks column ++ word k ++ ":" ++ renderValue column v ++ renderEntries column es

def renderValue (column : Nat) : Document → String
  | .list (d :: ds) =>
    "\n" ++ blanks column ++ "- " ++ render (column + 2) d ++ renderItems column ds
  | .map ((k, v) :: es) =>
    "\n" ++ blanks (column + 2) ++ word k ++ ":" ++ renderValue (column + 2) v ++
      renderEntries (column + 2) es
  | d => " " ++ scalarLine (column + 2) d

end

def write : Document → String
  | .text s => textLine 2 s
  | d => render 0 d

end Yaml

end ReservoirGas
