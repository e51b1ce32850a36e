import DeclarativeForm.CommandLine.Run

/-!
The program: reads what the arguments refer to, and prints what comes of them.
-/

set_option autoImplicit false

namespace DeclarativeForm.CommandLine

def findFile (name : String) : IO FileReading := do
  try
    return .content (← IO.FS.readFile name)
  catch
    | .noFileOrDirectory .. => return .absent
    | _ => return .unreadable

/-- Looks for the files that the arguments refer to. -/
def findFiles (arguments : List String) : IO (List (String × FileReading)) :=
  arguments.filterMapM fun argument =>
    match Origin.ofArgument argument with
    | .file name => return some (name, ← findFile name)
    | _ => return none

/-- What the arguments of a command refer to. -/
def gather (command : Command) : IO Inputs := do
  let standardInput ←
    if command.arguments.count "-" = 1 then (← IO.getStdin).readToEnd else pure ""
  let files ← findFiles command.arguments
  return { standardInput, file := fun name => (files.lookup name).getD .absent }

end DeclarativeForm.CommandLine

open DeclarativeForm.CommandLine in
def main (arguments : List String) : IO UInt32 := do
  let inputs ← match Request.read arguments with
    | some (.run command) => gather command
    | _ => pure (Inputs.ofFiles "" [])
  let report := run inputs arguments
  IO.print report.output
  if let some complaint := report.complaint then
    IO.eprintln complaint
  return report.code.toUInt32
