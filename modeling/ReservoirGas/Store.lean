import ReservoirGas.Project

namespace ReservoirGas

namespace FilePath

def parts (path : String) : List String :=
  (path.toList.splitOn '/').map String.ofList

def names (path : String) : List String :=
  (parts path).filter fun n ↦ n ≠ "" ∧ n ≠ "."

def isAbsolute (path : String) : Bool :=
  path.toList.head? == some '/'

def agree (a b : String) : Bool :=
  isAbsolute a == isAbsolute b && names a == names b

/-- What follows the last dot of a file's name, unless the name has no dot but a leading one. -/
def extension? (path : String) : Option String :=
  match (names path).getLast? with
  | none => none
  | some ".." => none
  | some name =>
    let back := name.toList.reverse
    match back.dropWhile (· ≠ '.') with
    | '.' :: _ :: _ => some (String.ofList (back.takeWhile (· ≠ '.')).reverse)
    | _ => none

def endsInSlash (path : String) : Bool :=
  match (parts path).getLast? with
  | some n => n = "" ∨ n = "."
  | none => true

end FilePath

abbrev Files := List (String × ByteArray)

namespace Files

def read? (files : Files) (path : String) : Option ByteArray :=
  if FilePath.endsInSlash path then none
  else (files.find? fun f ↦ FilePath.agree f.1 path).map Prod.snd

def write (files : Files) (path : String) (content : ByteArray) : Files :=
  (path, content) :: files

end Files

namespace Project

/-- A way to read the project that a text stands for; nothing of it is checked yet. -/
abbrev Parser := Format → String → Option Project

/-- The notations as far as they are modelled: YAML without anchors, aliases, tags and directives. -/
def parse? : Parser := fun format text ↦
  (format.read? text).bind (ofDocument? format)

def ofTextBy (parse : Parser) (format : Format) (text : String) : Except ProjectError Project := do
  let p ← match parse format text with
    | some p => .ok p
    | none => .error (.malformed format)
  p.check
  return p

def ofText : Format → String → Except ProjectError Project :=
  ofTextBy parse?

def toText (format : Format) (p : Project) : String :=
  format.write p.toDocument

def formatOf (path : String) : Except ProjectError Format :=
  match (FilePath.extension? path).bind Format.ofExtension? with
  | some f => .ok f
  | none => .error (.unknownFormat path)

def loadBy (parse : Parser) (read : String → Option ByteArray) (path : String) :
    Except ProjectError Project := do
  let format ← formatOf path
  match (read path).bind String.fromUTF8? with
  | some text => ofTextBy parse format text
  | none => .error .unreadableFile

def load : (String → Option ByteArray) → String → Except ProjectError Project :=
  loadBy parse?

/-- Writes a project to a file, unless it does not pass its checks; then nothing is written. -/
def save (format : Format) (p : Project) (path : String) (files : Files) :
    Except ProjectError Unit × Files :=
  match p.check with
  | .error e => (.error e, files)
  | .ok () => (.ok (), files.write path (p.toText format).toUTF8)

end Project

end ReservoirGas
