import ReservoirGas.Document.Yaml.Scalar

namespace ReservoirGas.Yaml

inductive Token
  | documentStart
  | documentEnd
  | blockList
  | blockMap
  | blockEnd
  | listOpen
  | listClose
  | mapOpen
  | mapClose
  | item
  | comma
  | key
  | value
  | plain (s : String)
  | text (s : String)
  deriving DecidableEq, Repr

structure Candidate where
  position : Nat
  start : Mark
  required : Bool

structure Scan where
  rest : List Mark
  tokens : List Token := []
  count : Nat := 0
  indents : List Int := []
  /-- The candidate of each open bracket, innermost first, and the one outside of all. -/
  candidates : List (Option Candidate) := [none]
  keyAllowed : Bool := true

def maxKeySize : Nat := 1024

namespace Scan

def inFlow (s : Scan) : Bool :=
  !s.candidates.tail.isEmpty

def indent (s : Scan) : Int :=
  s.indents.headD (-1)

def push (s : Scan) (t : Token) : Scan :=
  { s with tokens := t :: s.tokens, count := s.count + 1 }

def insert (s : Scan) (position : Nat) (t : Token) : Scan :=
  { s with tokens := s.tokens.insertIdx (s.count - position) t, count := s.count + 1 }

def closeBlocks (s : Scan) (column : Int) : Scan :=
  if s.inFlow then s
  else
    let open' := s.indents.dropWhile (column < ·)
    let closed := s.indents.length - open'.length
    { s with
      indents := open'
      tokens := List.replicate closed .blockEnd ++ s.tokens
      count := s.count + closed }

def openBlock (s : Scan) (column position : Nat) (t : Token) : Scan :=
  if !s.inFlow && s.indent < column then
    { s.insert position t with indents := column :: s.indents }
  else s

def setCandidate (s : Scan) (c : Option Candidate) : Scan :=
  { s with candidates := c :: s.candidates.tail }

def dropCandidate (s : Scan) : Option Scan :=
  match s.candidates.head? with
  | some (some c) => if c.required then none else some (s.setCandidate none)
  | _ => some s

def noteCandidate (s : Scan) (m : Mark) : Option Scan :=
  if s.keyAllowed then do
    let required := !s.inFlow && s.indent == m.column
    return (← s.dropCandidate).setCandidate (some ⟨s.count, m, required⟩)
  else some s

def candidate? (s : Scan) (m : Mark) : Option (Option Candidate) :=
  match s.candidates.head? with
  | some (some c) =>
    if c.start.line < m.line || c.start.offset + maxKeySize < m.offset then
      if c.required then none else some none
    else some (some c)
  | _ => some none

def openFlow (s : Scan) (m : Mark) (r : List Mark) (t : Token) : Option Scan := do
  let s ← s.noteCandidate m
  return { s.push t with candidates := none :: s.candidates, keyAllowed := true, rest := r }

def closeFlow (s : Scan) (r : List Mark) (t : Token) : Option Scan := do
  let s ← s.dropCandidate
  let candidates := if s.inFlow then s.candidates.tail else s.candidates
  return { s.push t with candidates := candidates, keyAllowed := false, rest := r }

def comma (s : Scan) (r : List Mark) : Option Scan := do
  return { (← s.dropCandidate).push .comma with keyAllowed := true, rest := r }

def item (s : Scan) (m : Mark) (r : List Mark) : Option Scan :=
  if !s.inFlow && !s.keyAllowed then none
  else do
    let s ← (s.openBlock m.column s.count .blockList).dropCandidate
    return { s.push .item with keyAllowed := true, rest := r }

def explicitKey (s : Scan) (m : Mark) (r : List Mark) : Option Scan :=
  if !s.inFlow && !s.keyAllowed then none
  else do
    let s ← (s.openBlock m.column s.count .blockMap).dropCandidate
    return { s.push .key with keyAllowed := !s.inFlow, rest := r }

/-- The colon of a value: what the candidate begins is its key, or there is none on this line. -/
def colon (s : Scan) (m : Mark) (r : List Mark) : Option Scan := do
  match ← s.candidate? m with
  | some c =>
    let s := (s.insert c.position .key).openBlock c.start.column c.position .blockMap
    return { (s.setCandidate none).push .value with keyAllowed := false, rest := r }
  | none =>
    if !s.inFlow && !s.keyAllowed then none
    else
      let s := (s.setCandidate none).openBlock m.column s.count .blockMap
      return { s.push .value with keyAllowed := !s.inFlow, rest := r }

def separator (s : Scan) (r : List Mark) (t : Token) : Option Scan := do
  let s ← (s.closeBlocks (-1)).dropCandidate
  return { s.push t with keyAllowed := false, rest := r.drop 2 }

def quoted (s : Scan) (m : Mark) (r : List Mark) : Option Scan := do
  let s ← s.noteCandidate m
  let g ← gatherQuoted (m.char == '"') .inside [] (.blanks []) r
  return { s.push (.text g.text) with keyAllowed := false, rest := g.rest }

def plain (s : Scan) (m : Mark) (r : List Mark) : Option Scan := do
  let s ← s.noteCandidate m
  let g ← gatherPlain s.inFlow (s.indent + 1) [] (.blanks []) (m :: r)
  return { s.push (.plain g.text) with keyAllowed := g.gap.hasBreak, rest := g.rest }

def block (s : Scan) (m : Mark) (r : List Mark) : Option Scan := do
  let s ← s.dropCandidate
  let g ← block? (m.char == '>') s.indent r
  return { s.push (.text g.text) with keyAllowed := true, rest := g.rest }

def isIndicator (c : Char) : Bool :=
  "-?:,[]\x7b\x7d#&*!|>'\"%@\x60".toList.contains c

def beginsPlain (s : Scan) (m : Mark) (r : List Mark) : Bool :=
  let blankNext := r.head?.any fun n ↦ isBlank n.char
  (!isBlank m.char && !isIndicator m.char) || (m.char == '-' && !blankNext) ||
    (!s.inFlow && (m.char == '?' || m.char == ':') && !atSpace r)

/-- Reads the next token at the mark `m`, where neither space nor a comment stands. The notation has anchors,
aliases, tags and directives as well, which are refused here. -/
def token (s : Scan) (m : Mark) (r : List Mark) : Option Scan :=
  let s := s.closeBlocks m.column
  let c := m.char
  if atSeparator '-' (m :: r) then s.separator r .documentStart
  else if atSeparator '.' (m :: r) then s.separator r .documentEnd
  else if m.column == 0 && c == '%' then none
  else if c == '[' then s.openFlow m r .listOpen
  else if c == '\x7b' then s.openFlow m r .mapOpen
  else if c == ']' then s.closeFlow r .listClose
  else if c == '\x7d' then s.closeFlow r .mapClose
  else if c == ',' then s.comma r
  else if c == '-' && atSpace r then s.item m r
  else if c == '?' && (s.inFlow || atSpace r) then s.explicitKey m r
  else if c == ':' && (s.inFlow || atSpace r) then s.colon m r
  else if !s.inFlow && (c == '|' || c == '>') then s.block m r
  else if c == '\'' || c == '"' then s.quoted m r
  else if s.beginsPlain m r then s.plain m r
  else none

def run : Nat → Scan → Option (List Token)
  | 0, _ => none
  | fuel + 1, s =>
    match skipSpace s.inFlow false s.keyAllowed s.rest with
    | (_, []) => do
      let s ← (s.closeBlocks (-1)).dropCandidate
      return s.tokens.reverse
    | (keyAllowed, m :: r) => do
      run fuel (← { s with keyAllowed := keyAllowed }.token m r)

end Scan

def tokens? (s : String) : Option (List Token) := do
  let ms ← marks? s
  Scan.run (ms.length + 1) { rest := ms }

end ReservoirGas.Yaml
