import ReservoirGas.Command

open ReservoirGas

def fileContent (path : String) : IO (Option ByteArray) := do
  try
    return some (← IO.FS.readBinFile path)
  catch _ =>
    return none

def path? : Command → Option String
  | .validate path => some path
  | .build path _ => some path
  | .inspect path _ _ => some path
  | .help _ => none

def main (args : List String) : IO UInt32 := do
  let content ← match (Command.ofArguments? args).bind path? with
    | some path => fileContent path
    | none => pure none
  let outcome := Command.outcome (fun _ ↦ content) args
  IO.print outcome.stdout
  IO.eprint outcome.stderr
  return outcome.exit
