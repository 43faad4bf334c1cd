import ReservoirGas.Report
import ReservoirGas.Store

namespace ReservoirGas

inductive HelpTopic
  | program
  | validate
  | build
  | inspect
  | help
  deriving DecidableEq, Repr

namespace HelpTopic

def ofCommand? : String → Option HelpTopic
  | "validate" => some .validate
  | "build" => some .build
  | "inspect" => some .inspect
  | "help" => some .help
  | _ => none

def lines : HelpTopic → List String
  | .program =>
    ["Wet and humid gas PVT table builder",
      "",
      "Usage: pvt-cli <COMMAND>",
      "",
      "Commands:",
      "  validate  Validate project file and table consistency",
      "  build     Build all region tables and print a summary",
      "  inspect   Print the completed undersaturated branches of one region",
      "  help      Print this message or the help of the given subcommand(s)",
      "",
      "Options:",
      "  -h, --help  Print help"]
  | .validate =>
    ["Validate project file and table consistency",
      "",
      "Usage: pvt-cli validate <PROJECT_PATH>",
      "",
      "Arguments:",
      "  <PROJECT_PATH>  Path to the project file (.yaml, .yml or .json)",
      "",
      "Options:",
      "  -h, --help  Print help"]
  | .build =>
    ["Build all region tables and print a summary",
      "",
      "Usage: pvt-cli build [OPTIONS] <PROJECT_PATH>",
      "",
      "Arguments:",
      "  <PROJECT_PATH>  Path to the project file",
      "",
      "Options:",
      "      --parallel  Build regions in parallel",
      "  -h, --help      Print help"]
  | .inspect =>
    ["Print the completed undersaturated branches of one region",
      "",
      "Usage: pvt-cli inspect [OPTIONS] <PROJECT_PATH>",
      "",
      "Arguments:",
      "  <PROJECT_PATH>  Path to the project file",
      "",
      "Options:",
      "      --region <REGION>  Zero-based region index [default: 0]",
      "      --family <FAMILY>  Gas family to print [default: wet] [possible values: wet, humid]",
      "  -h, --help             Print help"]
  | .help =>
    ["Print this message or the help of the given subcommand(s)",
      "",
      "Usage: pvt-cli help [COMMAND]...",
      "",
      "Arguments:",
      "  [COMMAND]...  Print help for the subcommand(s)"]

end HelpTopic

inductive Command
  | validate (path : String)
  | build (path : String) (parallel : Bool)
  | inspect (path : String) (region : Nat) (family : Family)
  | help (topic : HelpTopic)
  deriving DecidableEq, Repr

namespace Command

structure Options where
  flags : List String := []
  valued : List (String × (String → Bool)) := []

structure Given where
  path : Option String := none
  flags : List String := []
  values : List (String × String) := []
  help : Bool := false

namespace Given

def addPath (g : Given) (path : String) : Option Given :=
  if g.path.isSome || path.isEmpty then none else some { g with path := some path }

def addFlag (g : Given) (name : String) : Option Given :=
  if g.flags.contains name then none else some { g with flags := name :: g.flags }

def addValue (g : Given) (accepts : String → Bool) (name value : String) : Option Given :=
  if (g.values.lookup name).isSome || !accepts value then none
  else some { g with values := (name, value) :: g.values }

end Given

def isOption (arg : String) : Bool :=
  arg.startsWith "-" && arg != "-"

/-- A call for help, of which the short form may go on with anything. -/
def isHelp (arg : String) : Bool :=
  arg == "--help" || arg.startsWith "-h"

def splitOption (arg : String) : String × Option String :=
  let cs := arg.toList
  match cs.dropWhile (· ≠ '=') with
  | _ :: value => (String.ofList (cs.takeWhile (· ≠ '=')), some (String.ofList value))
  | [] => (arg, none)

/-- Sorts arguments. Options may stand anywhere, each at most once, and end at two dashes. What follows a
call for help does not matter. -/
def sort (o : Options) (g : Given) : List String → Option Given
  | [] => some g
  | ["--"] => some g
  | ["--", path] => g.addPath path
  | "--" :: _ :: _ :: _ => none
  | arg :: r =>
    if !isOption arg then do sort o (← g.addPath arg) r
    else if isHelp arg then some { g with help := true }
    else
      let (name, value) := splitOption arg
      match o.flags.contains name, o.valued.lookup name, value, r with
      | true, _, none, r => do sort o (← g.addFlag name) r
      | _, some accepts, some value, r => do sort o (← g.addValue accepts name value) r
      | _, some accepts, none, value :: r =>
        if isOption value then none else do sort o (← g.addValue accepts name value) r
      | _, _, _, _ => none

def index? (s : String) : Option Nat :=
  let ds := match s.toList with
    | '+' :: r => r
    | cs => cs
  if ds.isEmpty || !ds.all Char.isDigit then none
  else
    let n := Decimal.ofDigits ds
    if n < UInt64.size then some n else none

def inspectOptions : Options where
  valued := [("--region", fun s ↦ (index? s).isSome), ("--family", fun s ↦ (Family.ofName? s).isSome)]

def ofArguments? : List String → Option Command
  | "validate" :: r => do
    let g ← sort {} {} r
    if g.help then return .help .validate
    return .validate (← g.path)
  | "build" :: r => do
    let g ← sort { flags := ["--parallel"] } {} r
    if g.help then return .help .build
    return .build (← g.path) (g.flags.contains "--parallel")
  | "inspect" :: r => do
    let g ← sort inspectOptions {} r
    if g.help then return .help .inspect
    let region := (g.values.lookup "--region").bind index?
    let family := (g.values.lookup "--family").bind Family.ofName?
    return .inspect (← g.path) (region.getD 0) (family.getD .wet)
  | ["help"] => some (.help .program)
  | ["help", command] => (HelpTopic.ofCommand? command).map .help
  | arg :: _ => if isHelp arg then some (.help .program) else none
  | [] => none

end Command

inductive CommandError
  | project (cause : ProjectError)
  | regionOutOfRange (region count : Nat)
  deriving DecidableEq

namespace CommandError

def term : CommandError → Term
  | .project cause => .wrap "Project" cause.term
  | .regionOutOfRange region count =>
    .fields "RegionOutOfRange" [("region", .nat region), ("count", .nat count)]

/-- The report of an error. Where the reading of a file failed the line is left open. -/
def text (e : CommandError) : String :=
  let line := "Error: " ++ e.term.render
  match e with
  | .project cause => if cause.isReading then line else line ++ "\n"
  | .regionOutOfRange .. => line ++ "\n"

end CommandError

structure Outcome where
  exit : UInt32
  stdout : String
  stderr : String
  deriving DecidableEq, Repr

namespace Command

abbrev Printed := List String × Except CommandError Unit

def printed : Except CommandError (List String) → Printed
  | .ok lines => (lines, .ok ())
  | .error e => ([], .error e)

section Run

variable (load : String → Except ProjectError Project)

def summary (path : String) (parallel : Bool) : Except CommandError (List String) := do
  let p ← (load path).mapError .project
  let p := if parallel then { p with options := { parallel := true } } else p
  let m ← p.build.mapError .project
  return Report.summary p.name m

def branches (path : String) (region : Nat) (family : Family) : Except CommandError (List String) := do
  let p ← (load path).mapError .project
  let m ← p.build.mapError .project
  match m.gas? region family with
  | some g => return Report.branches region g
  | none => throw (.regionOutOfRange region m.regions.length)

def run : Command → Printed
  | validate path =>
    let first := s!"Validating project: {path}"
    match load path with
    | .ok p => ([first, s!"✓ Project is valid ({p.deck.regionCount} regions)"], .ok ())
    | .error e => ([first], .error (.project e))
  | build path parallel => printed (summary load path parallel)
  | inspect path region family => printed (branches load path region family)
  | help topic => (topic.lines, .ok ())

/-- The outcome of a list of arguments; where they are no command, only the exit code tells. No log is
asked for. -/
def outcomeBy (args : List String) : Outcome :=
  match ofArguments? args with
  | none => ⟨2, "", ""⟩
  | some c =>
    let (lines, result) := c.run load
    let stdout := String.join (lines.map (· ++ "\n"))
    match result with
    | .ok () => ⟨0, stdout, ""⟩
    | .error e => ⟨1, stdout, e.text⟩

end Run

def outcome (read : String → Option ByteArray) (args : List String) : Outcome :=
  outcomeBy (Project.load read) args

end Command

end ReservoirGas
