import ReservoirGas.Project
import ReservoirGas.Text.Visible

namespace ReservoirGas

def sentenceStyle : Decimal.Style where
  plain := none
  pointZero := false
  plus := false
  tie := .up
  nan := "NaN"
  infinity := "inf"

def termStyle : Decimal.Style where
  plain := some (-4, 15)
  pointZero := true
  plus := false
  tie := .up
  nan := "NaN"
  infinity := "inf"

example : [-0.0, 1e-7, 1e20].map sentenceStyle.write = ["-0", "0.0000001", "100000000000000000000"] := by
  decide +kernel

example : [-0.0, 0.0001, 0.00001, 1e15, 1e16].map termStyle.write =
    ["-0.0", "0.0001", "1e-5", "1000000000000000.0", "1e16"] := by decide +kernel

namespace ProjectError

def message : ProjectError → String
  | .property cause => s!"Invalid PVT input: {cause.message sentenceStyle.write}"
  | .unsupportedVersion version => s!"Unsupported version: {version}"
  | .unknownFormat path => s!"Unknown project file extension: {path}"
  | .unreadableFile => "I/O error"
  | .malformed .yaml => "YAML error"
  | .malformed .json => "JSON error"

end ProjectError

inductive Term
  | word (s : String)
  | text (s : String)
  | wrap (name : String) (inner : Term)
  | fields (name : String) (items : List (String × Term))

namespace Term

def nat (n : Nat) : Term := word (toString n)

def escape (c : Char) : List Char :=
  match c with
  | '"' => ['\\', '"']
  | '\\' => ['\\', '\\']
  | '\n' => ['\\', 'n']
  | '\r' => ['\\', 'r']
  | '\t' => ['\\', 't']
  | '\x00' => ['\\', '0']
  | c => if Text.isVisible c then [c] else ['\\', 'u', '\x7b'] ++ Nat.toDigits 16 c.toNat ++ ['\x7d']

def quote (s : String) : String :=
  String.ofList ('"' :: (s.toList.flatMap escape ++ ['"']))

mutual

def render : Term → String
  | word s => s
  | text s => quote s
  | wrap name inner => name ++ "(" ++ inner.render ++ ")"
  | fields name items => name ++ " \x7b " ++ ", ".intercalate (renderItems items) ++ " \x7d"

def renderItems : List (String × Term) → List String
  | [] => []
  | (name, t) :: r => (name ++ ": " ++ t.render) :: renderItems r

end

end Term

def Family.term : Family → Term
  | .wet => .word "Wet"
  | .humid => .word "Humid"

def Region.Id.term (id : Region.Id) : Term :=
  .wrap "RegionId" (.nat id.toNat)

def NumericError.term : NumericError Float → Term
  | .nonFinite what value =>
    .fields "NonFinite" [("what", .text what), ("value", .word (termStyle.write value))]
  | .invalidArgument what => .fields "InvalidArg" [("what", .text what)]
  | .invariant what => .fields "Invariant" [("what", .text what)]

def TableError.term : TableError → Term
  | .tooFewPoints what count minimum =>
    .fields "TooFewPoints" [("what", .text what), ("len", .nat count), ("min", .nat minimum)]
  | .lengthMismatch what xCount yCount =>
    .fields "LengthMismatch" [("what", .text what), ("x_len", .nat xCount), ("y_len", .nat yCount)]
  | .nonMonotonic what index => .fields "NonMonotonic" [("what", .text what), ("index", .nat index)]
  | .nodeOutOfRange index count => .fields "NodeOob" [("index", .nat index), ("len", .nat count)]
  | .emptyBranch index => .fields "EmptyBranch" [("index", .nat index)]
  | .nonFinite what index => .fields "NonFinite" [("what", .text what), ("index", .nat index)]

def PropertyError.term : PropertyError Float → Term
  | .tableMismatch left leftCount right rightCount =>
    .fields "TableMismatch" [("left", .text left.name), ("left_count", .nat leftCount),
      ("right", .text right.name), ("right_count", .nat rightCount)]
  | .insufficientData table region rows =>
    .fields "InsufficientData" [("table", .text table.name), ("region", region.term), ("rows", .nat rows)]
  | .extrapolationImpossible family region node =>
    .fields "ExtrapolationImpossible" [("family", family.term), ("region", region.term),
      ("node", .nat node)]
  | .missingBranch table region node =>
    .fields "MissingBranch" [("table", .text table.name), ("region", region.term), ("node", .nat node)]
  | .nonMonotonic table region cell =>
    .fields "NonMonotonic" [("table", .text table.name), ("region", region.term),
      ("location", .text (cell.step table))]
  | .nonPhysical table region cell value =>
    .fields "NonPhysical" [("table", .text table.name), ("region", region.term),
      ("location", .text (cell.place table)), ("value", .word (termStyle.write value))]
  | .invalidTable cause => .wrap "Table" cause.term
  | .invalidNumber cause => .wrap "Core" cause.term

def ProjectError.term : ProjectError → Term
  | .property cause => .wrap "Pvt" cause.term
  | .unsupportedVersion version => .fields "UnsupportedVersion" [("version", .nat version.toNat)]
  | .unknownFormat path => .fields "UnknownFormat" [("path", .text path)]
  | .unreadableFile => .word "Io"
  | .malformed .yaml => .word "Yaml"
  | .malformed .json => .word "Json"

def ProjectError.isReading : ProjectError → Bool
  | .unreadableFile => true
  | .malformed _ => true
  | _ => false

namespace Report

def padLeft (width : Nat) (s : String) : String :=
  String.ofList (List.replicate (width - s.length) ' ') ++ s

def padRight (width : Nat) (s : String) : String :=
  s ++ String.ofList (List.replicate (width - s.length) ' ')

def extensionText (es : List Extension) : String :=
  if es.isEmpty then "none"
  else ", ".intercalate (es.map fun e ↦ s!"{e.node}<-{e.master}")

def gasLine (g : GasProperties Float) : String :=
  s!"    {padRight 6 g.family.keyword.name} {g.size} nodes, " ++
  s!"{g.inverseVolumeFactor.sampleCount} samples, extended: {extensionText g.extensions}"

def regionLines (r : RegionProperties Float) : List String :=
  let rho := r.densities
  (s!"  Region {r.id}: densities oil={Decimal.fixedText 2 rho.oil} gas={Decimal.fixedText 4 rho.gas} " ++
    s!"water={Decimal.fixedText 2 rho.water} kg/m3") :: Family.all.map fun f ↦ gasLine (r.gas f)

def summary (name : String) (m : Model Float) : List String :=
  s!"✓ Built {m.regions.length} regions for '{name}'" ::
  s!"  VAPPARS vap1: {sentenceStyle.write m.control.vapPar1}" ::
  ("  Salt tables: " ++ if m.saltEnabled then "yes" else "no") ::
  m.regions.flatMap regionLines

def nodeLine (pressure : Float) (extended : Bool) : String :=
  s!"  P = {Decimal.fixedText 3 (Pressure.mk pressure).bar} bar" ++
  if extended then "  (extrapolated)" else ""

def columns (a b c : String) : String :=
  s!"    {padLeft 14 a} {padLeft 14 b} {padLeft 14 c}"

def sampleLine (ratio inverse viscosity : Float) : String :=
  let text := Decimal.exponentText 6
  columns (text ratio) (text (1 / inverse)) (text viscosity)

def nodeLines (g : GasProperties Float) (i : Nat) (pressure : Float) : List String :=
  nodeLine pressure (g.isExtended i) ::
  columns g.family.ratioColumn.name "B" "MU" ::
  List.zipWith (fun s viscosity ↦ sampleLine s.1 s.2 viscosity)
    (g.inverseVolumeFactor.branch i) (g.viscosity.branchValues i)

def branches (region : Nat) (g : GasProperties Float) : List String :=
  s!"{g.family.keyword.name} region {region}" ::
  g.inverseVolumeFactor.xs.zipIdx.flatMap fun (p, i) ↦ nodeLines g i p

end Report

end ReservoirGas
