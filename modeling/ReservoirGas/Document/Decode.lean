import ReservoirGas.Document.Json
import ReservoirGas.Document.Yaml.Printer
import ReservoirGas.Document.Yaml.Reader

namespace ReservoirGas

inductive Format
  | json
  | yaml
  deriving DecidableEq, Repr

namespace Format

def read? : Format → String → Option Document
  | json => Json.read?
  | yaml => Yaml.read?

def write : Format → Document → String
  | json => Json.write
  | yaml => Yaml.write

def recordsAsLists : Format → Bool
  | json => true
  | yaml => false

/-- How many containers may be nested where a value is kept before its kind is known. -/
def maxHeight : Format → Nat
  | json => 127
  | yaml => 128

def ofExtension? (e : String) : Option Format :=
  if e = "yaml" ∨ e = "yml" then some yaml else if e = "json" then some json else none

end Format

namespace Document

def text? : Document → Option String
  | .text s => some s
  | .plain s => some s
  | _ => none

def bool? : Document → Option Bool
  | .bool b => some b
  | .plain s => Yaml.bool? s
  | _ => none

def uint32? (d : Document) : Option UInt32 :=
  let n? := match d with
    | .int n => if 0 ≤ n then some n.toNat else none
    | .plain s => Yaml.unsigned? s
    | _ => none
  n?.bind fun n ↦ if n < UInt32.size then some (.ofNat n) else none

def float? : Document → Option Float
  | .int n => some (.ofInt n)
  | .float x => some x
  | .plain s => Yaml.float? s
  | _ => none

def optionalFloat? : Document → Option (Option Float)
  | .null => some none
  | d => d.float?.map some

/-- The items of a list, for which nothing at all stands as well. -/
def list? {β : Type} (item : Document → Option β) : Document → Option (List β)
  | .list ds => ds.mapM item
  | .plain "" => some []
  | _ => none

def settle : Document → Document
  | .plain s => Yaml.settle s
  | .list ds => .list (settleItems ds)
  | .map es => .map (settleEntries es)
  | d => d
where
  settleItems : List Document → List Document
    | [] => []
    | d :: ds => d.settle :: settleItems ds
  settleEntries : List (Document × Document) → List (Document × Document)
    | [] => []
    | (k, v) :: es => (k.settle, v.settle) :: settleEntries es

abbrev Fields := List (String × Document)

def fields? (names : List String) : List (Option String × Document) → Option Fields
  | [] => some []
  | (none, _) :: _ => none
  | (some name, v) :: r => do
    let fs ← fields? names r
    if !names.contains name then return fs
    else if (fs.lookup name).isSome then none
    else return (name, v) :: fs

/-- The fields of a record with the fields `names`. Where the format has it so, their list in order will
do, and fields at its end may be missing. -/
def record? (format : Format) (names : List String) : Document → Option Fields
  | .map es => fields? names (es.map fun (k, v) ↦ (k.text?, v))
  | .list ds => if format.recordsAsLists && ds.length ≤ names.length then some (names.zip ds) else none
  | .plain "" => some []
  | _ => none

namespace Fields

variable {β : Type}

def required (fs : Fields) (name : String) (read : Document → Option β) : Option β :=
  (fs.lookup name).bind read

def withDefault (fs : Fields) (name : String) (default : β) (read : Document → Option β) : Option β :=
  match fs.lookup name with
  | none => some default
  | some d => read d

end Fields

end Document

end ReservoirGas
