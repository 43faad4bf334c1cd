import ReservoirGas.Document.Yaml.Token

namespace ReservoirGas.Yaml

def empty : Document := .plain ""

mutual

/-- A node at the front of the tokens, with at most `fuel` nested calls. Block structure is possible
outside of brackets only; behind a key a list may stand at the column of the key, without tokens that
open and close it. -/
def node? (fuel : Nat) (inBlock afterKey : Bool) (ts : List Token) : Option (Document × List Token) :=
  match fuel with
  | 0 => none
  | fuel + 1 =>
    match ts with
    | .plain s :: r => some (.plain s, r)
    | .text s :: r => some (.text s, r)
    | .listOpen :: r => (flowItems? fuel true r).map fun (items, r) ↦ (.list items, r)
    | .mapOpen :: r => (flowEntries? fuel true r).map fun (entries, r) ↦ (.map entries, r)
    | .blockList :: r =>
      if inBlock then (blockItems? fuel r).map fun (items, r) ↦ (.list items, r) else none
    | .blockMap :: r =>
      if inBlock then (blockEntries? fuel r).map fun (entries, r) ↦ (.map entries, r) else none
    | .item :: r =>
      if afterKey then (bareItems? fuel (.item :: r)).map fun (items, r) ↦ (.list items, r) else none
    | _ => none

def blockItems? (fuel : Nat) (ts : List Token) : Option (List Document × List Token) :=
  match fuel with
  | 0 => none
  | fuel + 1 =>
    match ts with
    | .blockEnd :: r => some ([], r)
    | .item :: r => do
      let (d, r) ← match r with
        | .item :: _ => some (empty, r)
        | .blockEnd :: _ => some (empty, r)
        | r => node? fuel true false r
      let (ds, r) ← blockItems? fuel r
      return (d :: ds, r)
    | _ => none

/-- The items of a list that stands behind a key at the key's column. -/
def bareItems? (fuel : Nat) (ts : List Token) : Option (List Document × List Token) :=
  match fuel with
  | 0 => none
  | fuel + 1 =>
    match ts with
    | .item :: r => do
      let (d, r) ← match r with
        | .item :: _ => some (empty, r)
        | .key :: _ => some (empty, r)
        | .value :: _ => some (empty, r)
        | .blockEnd :: _ => some (empty, r)
        | r => node? fuel true false r
      let (ds, r) ← bareItems? fuel r
      return (d :: ds, r)
    | r => some ([], r)

def blockPart? (fuel : Nat) (ts : List Token) : Option (Document × List Token) :=
  match fuel with
  | 0 => none
  | fuel + 1 =>
    match ts with
    | .key :: _ => some (empty, ts)
    | .value :: _ => some (empty, ts)
    | .blockEnd :: _ => some (empty, ts)
    | r => node? fuel true true r

def blockEntries? (fuel : Nat) (ts : List Token) : Option (List (Document × Document) × List Token) :=
  match fuel with
  | 0 => none
  | fuel + 1 =>
    match ts with
    | .blockEnd :: r => some ([], r)
    | .key :: r => do
      let (k, r) ← blockPart? fuel r
      let (v, r) ← match r with
        | .value :: r => blockPart? fuel r
        | r => some (empty, r)
      let (es, r) ← blockEntries? fuel r
      return ((k, v) :: es, r)
    | _ => none

def flowPart? (fuel : Nat) (ts : List Token) : Option (Document × List Token) :=
  match fuel with
  | 0 => none
  | fuel + 1 =>
    match ts with
    | .value :: _ => some (empty, ts)
    | .comma :: _ => some (empty, ts)
    | .listClose :: _ => some (empty, ts)
    | .mapClose :: _ => some (empty, ts)
    | r => node? fuel false false r

def flowValue? (fuel : Nat) (ts : List Token) : Option (Document × List Token) :=
  match fuel with
  | 0 => none
  | fuel + 1 =>
    match ts with
    | .value :: .value :: _ => none
    | .value :: r => flowPart? fuel r
    | r => some (empty, r)

def flowPair? (fuel : Nat) (ts : List Token) : Option ((Document × Document) × List Token) :=
  match fuel with
  | 0 => none
  | fuel + 1 => do
    let (k, r) ← flowPart? fuel ts
    let (v, r) ← flowValue? fuel r
    return ((k, v), r)

def flowItems? (fuel : Nat) (first : Bool) (ts : List Token) : Option (List Document × List Token) :=
  match fuel with
  | 0 => none
  | fuel + 1 =>
    match first, ts with
    | _, .listClose :: r => some ([], r)
    | false, .comma :: .listClose :: r => some ([], r)
    | false, .comma :: r => flowItem? fuel r
    | true, r => flowItem? fuel r
    | _, _ => none

/-- An item of a list in brackets and the items after it. Where the key of an item is left out, so is the
token behind its mark. -/
def flowItem? (fuel : Nat) (ts : List Token) : Option (List Document × List Token) :=
  match fuel with
  | 0 => none
  | fuel + 1 => do
    let (d, r) ← match ts with
      | .key :: .value :: r => (flowValue? fuel r).map fun (v, r) ↦ (.map [(empty, v)], r)
      | .key :: .comma :: r => (flowValue? fuel r).map fun (v, r) ↦ (.map [(empty, v)], r)
      | .key :: .listClose :: r => (flowValue? fuel r).map fun (v, r) ↦ (.map [(empty, v)], r)
      | .key :: r => (flowPair? fuel r).map fun (e, r) ↦ (.map [e], r)
      | r => node? fuel false false r
    let (ds, r) ← flowItems? fuel false r
    return (d :: ds, r)

def flowEntries? (fuel : Nat) (first : Bool) (ts : List Token) :
    Option (List (Document × Document) × List Token) :=
  match fuel with
  | 0 => none
  | fuel + 1 =>
    match first, ts with
    | _, .mapClose :: r => some ([], r)
    | false, .comma :: .mapClose :: r => some ([], r)
    | false, .comma :: r => flowEntry? fuel r
    | true, r => flowEntry? fuel r
    | _, _ => none

def flowEntry? (fuel : Nat) (ts : List Token) : Option (List (Document × Document) × List Token) :=
  match fuel with
  | 0 => none
  | fuel + 1 => do
    let (e, r) ← match ts with
      | .key :: r => flowPair? fuel r
      | r => (node? fuel false false r).map fun (k, r) ↦ ((k, empty), r)
    let (es, r) ← flowEntries? fuel false r
    return (e :: es, r)

end

def root? (ts : List Token) : Option (Document × List Token) :=
  match ts with
  | [] => some (empty, [])
  | .documentStart :: _ => some (empty, ts)
  | .documentEnd :: _ => some (empty, ts)
  | _ => node? (4 * ts.length + 4) true false ts

/-- The document of tokens that hold one document and no second one. Of four nested calls at least one
takes a token. -/
def ofTokens? (ts : List Token) : Option Document := do
  let (d, r) ← match ts with
    | [] => none
    | .documentStart :: r => root? r
    | .documentEnd :: _ => none
    | r => root? r
  if (r.dropWhile (· == .documentEnd)).isEmpty then some d else none

/-- The document that a text stands for, if it has no anchor, alias, tag or directive. -/
def read? (s : String) : Option Document := do
  ofTokens? (← tokens? s)

end ReservoirGas.Yaml
