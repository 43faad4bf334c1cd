import ReservoirGas.Document.Decode
import ReservoirGas.Model

namespace ReservoirGas

structure Project where
  version : UInt32
  name : String
  options : BuildOptions := {}
  schedule : Schedule Float := {}
  deck : Deck Float
  deriving BEq, DecidableEq

inductive ProjectError
  | property (cause : PropertyError Float)
  | unsupportedVersion (version : UInt32)
  | unknownFormat (path : String)
  | unreadableFile
  | malformed (format : Format)
  deriving DecidableEq

namespace Project

def latestVersion : UInt32 := 1

def checkVersion (p : Project) : Except ProjectError Unit :=
  if latestVersion < p.version then .error (.unsupportedVersion p.version) else .ok ()

def check (p : Project) : Except ProjectError Unit := do
  p.checkVersion
  p.deck.check.mapError .property

def build (p : Project) : Except ProjectError (Model Float) := do
  p.checkVersion
  (Model.build p.options (.ofSchedule p.schedule) p.deck).mapError .property

end Project

open Document

namespace Densities

def toDocument (d : Densities Float) : Document :=
  .record [("oil", .float d.oil), ("gas", .float d.gas), ("water", .float d.water)]

def ofDocument? (format : Format) (d : Document) : Option (Densities Float) := do
  let fs ← d.record? format ["oil", "gas", "water"]
  return {
    oil := ← fs.required "oil" float?
    gas := ← fs.required "gas" float?
    water := ← fs.required "water" float? }

end Densities

namespace SaturatedRow

def toDocument (r : SaturatedRow Float) : Document :=
  .record [("pressure", .float r.pressure), ("formation_volume_factor", .float r.volumeFactor),
    ("viscosity", .float r.viscosity), ("vaporization_ratio", .float r.ratio)]

def ofDocument? (format : Format) (d : Document) : Option (SaturatedRow Float) := do
  let fs ← d.record? format ["pressure", "formation_volume_factor", "viscosity", "vaporization_ratio"]
  return {
    pressure := ← fs.required "pressure" float?
    volumeFactor := ← fs.required "formation_volume_factor" float?
    viscosity := ← fs.required "viscosity" float?
    ratio := ← fs.required "vaporization_ratio" float? }

end SaturatedRow

namespace GasSample

def toDocument (s : GasSample Float) : Document :=
  .record [("ratio", .float s.ratio), ("formation_volume_factor", .float s.volumeFactor),
    ("viscosity", .float s.viscosity)]

def ofDocument? (format : Format) (d : Document) : Option (GasSample Float) := do
  let fs ← d.record? format ["ratio", "formation_volume_factor", "viscosity"]
  return {
    ratio := ← fs.required "ratio" float?
    volumeFactor := ← fs.required "formation_volume_factor" float?
    viscosity := ← fs.required "viscosity" float? }

end GasSample

namespace GasTable

def toDocument (t : GasTable Float) : Document :=
  .record [("saturated", .list (t.saturated.map SaturatedRow.toDocument)),
    ("undersaturated", .list (t.undersaturated.map fun b ↦ .list (b.map GasSample.toDocument)))]

def ofDocument? (format : Format) (d : Document) : Option (GasTable Float) := do
  let fs ← d.record? format ["saturated", "undersaturated"]
  return {
    saturated := ← fs.required "saturated" (list? (SaturatedRow.ofDocument? format))
    undersaturated :=
      ← fs.withDefault "undersaturated" [] (list? (list? (GasSample.ofDocument? format))) }

end GasTable

namespace SaltSaturatedRow

def toDocument (r : SaltSaturatedRow Float) : Document :=
  .record [("pressure", .float r.pressure), ("vaporization_ratio", .float r.ratio)]

def ofDocument? (format : Format) (d : Document) : Option (SaltSaturatedRow Float) := do
  let fs ← d.record? format ["pressure", "vaporization_ratio"]
  return {
    pressure := ← fs.required "pressure" float?
    ratio := ← fs.required "vaporization_ratio" float? }

end SaltSaturatedRow

namespace SaltSample

def toDocument (s : SaltSample Float) : Document :=
  .record [("salt_concentration", .float s.concentration), ("vaporization_ratio", .float s.ratio)]

def ofDocument? (format : Format) (d : Document) : Option (SaltSample Float) := do
  let fs ← d.record? format ["salt_concentration", "vaporization_ratio"]
  return {
    concentration := ← fs.required "salt_concentration" float?
    ratio := ← fs.required "vaporization_ratio" float? }

end SaltSample

namespace SaltTable

def toDocument (t : SaltTable Float) : Document :=
  .record [("saturated", .list (t.saturated.map SaltSaturatedRow.toDocument)),
    ("undersaturated", .list (t.undersaturated.map fun b ↦ .list (b.map SaltSample.toDocument)))]

def ofDocument? (format : Format) (d : Document) : Option (SaltTable Float) := do
  let fs ← d.record? format ["saturated", "undersaturated"]
  return {
    saturated := ← fs.required "saturated" (list? (SaltSaturatedRow.ofDocument? format))
    undersaturated :=
      ← fs.withDefault "undersaturated" [] (list? (list? (SaltSample.ofDocument? format))) }

end SaltTable

namespace Deck

def toDocument (d : Deck Float) : Document :=
  .record [("densities", .list (d.densities.map Densities.toDocument)),
    ("wet", .list (d.wet.map GasTable.toDocument)),
    ("humid", .list (d.humid.map GasTable.toDocument)),
    ("salt", .list (d.salt.map SaltTable.toDocument))]

def ofDocument? (format : Format) (d : Document) : Option (Deck Float) := do
  let fs ← d.record? format ["densities", "wet", "humid", "salt"]
  return {
    densities := ← fs.required "densities" (list? (Densities.ofDocument? format))
    wet := ← fs.required "wet" (list? (GasTable.ofDocument? format))
    humid := ← fs.required "humid" (list? (GasTable.ofDocument? format))
    salt := ← fs.withDefault "salt" [] (list? (SaltTable.ofDocument? format)) }

end Deck

namespace OilVaporization

def rateDocument : Option Float → Document
  | none => .null
  | some x => .float x

def toDocument : OilVaporization Float → Document
  | .undefined => .record [("type", .text "undefined")]
  | .parameters vap1 vap2 =>
    .record [("type", .text "vappars"), ("vap1", .float vap1), ("vap2", .float vap2)]
  | .rates maxDissolved maxVaporized =>
    .record [("type", .text "drdt"), ("max_drsdt", rateDocument maxDissolved),
      ("max_drvdt", rateDocument maxVaporized)]

/-- A setting of two fields without its tag: a list of them in order, or a map, whose keys are their names
or their positions. -/
def fieldsOf? (names : List String) : Document → Option Fields
  | .list ds => if ds.length ≤ names.length then some (names.zip ds) else none
  | .map es => fields? names (es.map fun
      | (.text s, v) => (some s, v)
      | (.int n, v) => (if n < 0 then none else some (names[n.toNat]?.getD ""), v)
      | (_, v) => (none, v))
  | _ => none

def ofTag? (tag : String) (rest : Document) : Option (OilVaporization Float) :=
  match tag with
  | "undefined" =>
    match rest with
    | .list (_ :: _) => none
    | _ => some .undefined
  | "vappars" => do
    let fs ← fieldsOf? ["vap1", "vap2"] rest
    return .parameters (← fs.required "vap1" float?) (← fs.required "vap2" float?)
  | "drdt" => do
    let fs ← fieldsOf? ["max_drsdt", "max_drvdt"] rest
    return .rates (← fs.withDefault "max_drsdt" none optionalFloat?)
      (← fs.withDefault "max_drvdt" none optionalFloat?)
  | _ => none

def isTag : Document × Document → Bool
  | (.text "type", _) => true
  | _ => false

def enclosing : Nat := 4

/-- A setting is a map that holds its tag once, or a list that begins with it. All of it is read before
the tag is looked at. -/
def ofDocument? (format : Format) (d : Document) : Option (OilVaporization Float) :=
  let d := d.settle
  if !d.isReadable || format.maxHeight < enclosing + d.height then none
  else match d with
    | .list (.text tag :: r) => ofTag? tag (.list r)
    | .map es =>
      match es.filter isTag with
      | [(_, .text tag)] => ofTag? tag (.map (es.filter fun e ↦ !isTag e))
      | _ => none
    | _ => none

end OilVaporization

namespace Schedule

def stepDocument (v : OilVaporization Float) : Document :=
  .record [("oil_vaporization", v.toDocument)]

def stepOfDocument? (format : Format) (d : Document) : Option (OilVaporization Float) := do
  let fs ← d.record? format ["oil_vaporization"]
  fs.withDefault "oil_vaporization" .undefined (OilVaporization.ofDocument? format)

def toDocument (s : Schedule Float) : Document :=
  .record [("steps", .list (s.steps.map stepDocument))]

def ofDocument? (format : Format) (d : Document) : Option (Schedule Float) := do
  let fs ← d.record? format ["steps"]
  return { steps := ← fs.withDefault "steps" [] (list? (stepOfDocument? format)) }

end Schedule

namespace BuildOptions

def toDocument (o : BuildOptions) : Document :=
  .record [("parallel_regions", .bool o.parallel)]

def ofDocument? (format : Format) (d : Document) : Option BuildOptions := do
  let fs ← d.record? format ["parallel_regions"]
  return { parallel := ← fs.withDefault "parallel_regions" false bool? }

end BuildOptions

namespace Project

def toDocument (p : Project) : Document :=
  .record [("version", .int p.version.toNat), ("name", .text p.name), ("options", p.options.toDocument),
    ("schedule", p.schedule.toDocument), ("input", p.deck.toDocument)]

def ofDocument? (format : Format) (d : Document) : Option Project := do
  let fs ← d.record? format ["version", "name", "options", "schedule", "input"]
  return {
    version := ← fs.required "version" uint32?
    name := ← fs.required "name" text?
    options := ← fs.withDefault "options" {} (BuildOptions.ofDocument? format)
    schedule := ← fs.withDefault "schedule" {} (Schedule.ofDocument? format)
    deck := ← fs.required "input" (Deck.ofDocument? format) }

end Project

def Family.ofDocument? : Document → Option Family
  | .text s => ofName? s
  | .map [(.text s, .null)] => ofName? s
  | _ => none

end ReservoirGas
