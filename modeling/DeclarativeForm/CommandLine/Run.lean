import DeclarativeForm.CommandLine.Command
import DeclarativeForm.Engine.Fetch
import DeclarativeForm.Engine.Wizard
import DeclarativeForm.Json.Printer
import DeclarativeForm.Options.Table
import DeclarativeForm.Outline.Render
import DeclarativeForm.Schema.Document

/-!
Running a command. What a command reads is written on the command line itself, on standard input or
in a file; what it reads from is given here as a value, and the outcome is one too.
-/

set_option autoImplicit false

namespace DeclarativeForm.CommandLine

inductive FileReading
  | content (text : String)
  | absent
  | unreadable
deriving DecidableEq, Repr

structure Inputs where
  standardInput : String
  file : String → FileReading

/-- The parts of a file's name that do not stand for the place they are in. -/
def pathParts (name : String) : List String := (name.splitOn "/").filter (· ≠ ".")

/-- The parts of a file's name, and the whole of it, are no longer than this. -/
def partLimit : Nat := 255

def nameLimit : Nat := 4095

/-- Reads from some files with their contents. A name that is too long cannot be looked up. -/
def Inputs.ofFiles (standardInput : String) (files : List (String × String)) : Inputs :=
  { standardInput
    file := fun name =>
      match files.find? fun entry => pathParts entry.1 = pathParts name with
      | some (_, text) => .content text
      | none =>
        if nameLimit < name.utf8ByteSize
            || (name.splitOn "/").any fun part => decide (partLimit < part.utf8ByteSize) then
          .unreadable
        else .absent }

inductive Fault
  | standardInputTwice
  | unreadable (label name : String)
  | notJson (label : String) (error : Json.SyntaxError)
  | noForm (fault : FormFault)
  | noTable (fault : TableFault)

def Fault.message : Fault → String
  | standardInputTwice => "only one input can be read from stdin"
  | unreadable label name => "failed to load " ++ label ++ " from " ++ name
  | notJson label error => "failed to parse " ++ label ++ " as JSON: " ++ error.message
  | noForm fault => fault.message
  | noTable fault => fault.message

inductive Origin
  | standardInput
  | inline (text : String)
  | file (name : String)
deriving DecidableEq, Repr

/-- Where an argument says that something is read: a dash stands for standard input, and a text that
opens an object or an array stands for itself. -/
def Origin.ofArgument (text : String) : Origin :=
  if text = "-" then standardInput
  else match text.toList.dropWhile Text.isBlank with
    | c :: _ => if c = '\x7b' || c = '[' then inline text else file text
    | [] => file text

def parse (label text : String) : Except Fault Json :=
  (Json.parse text).mapError (.notJson label)

def Inputs.load (inputs : Inputs) (label argument : String) : Except Fault Json :=
  match Origin.ofArgument argument with
  | .standardInput => parse label inputs.standardInput
  | .inline text => parse ("inline " ++ label) text
  | .file name =>
    match inputs.file name with
    | .content text => parse label text
    | .absent => parse ("inline " ++ label) name
    | .unreadable => .error (.unreadable label name)

def Inputs.loadForm (inputs : Inputs) (argument : String) : Except Fault Form := do
  (Form.ofJson (← inputs.load "config" argument)).mapError .noForm

def Inputs.loadFunctions (inputs : Inputs) (argument : String) : Except Fault FunctionTable := do
  (OptionTable.ofJson (← inputs.load "options" argument)).mapError .noTable

def Inputs.mount (inputs : Inputs) (config : String) (data options : Option String) :
    Except Fault Engine := do
  let form ← inputs.loadForm config
  let data ← data.mapM (inputs.load "data")
  let functions ← options.mapM inputs.loadFunctions
  pure (Engine.mount
    { form
      functions := functions.getD []
      validators := .builtin
      options := .standard
      data })

/-- Goes forward by so many steps of a wizard, or as far as there are no errors. -/
def advance : Nat → Engine → Engine
  | 0, engine => engine
  | steps + 1, engine =>
    match engine.nextStep with
    | (engine, .moved _ _) => advance steps engine
    | (engine, _) => engine

/-- How many steps lead to the one wanted, counted from one; outside of the wizard, the nearest one
is meant. -/
def stepsTo (wanted : Nat) (engine : Engine) : Nat := min (max wanted 1) engine.navigator.total - 1

def errorReport (engine : Engine) : Json :=
  .object (engine.store.errors.foldl
    (fun members (key, message) => Members.insert key (.string message) members) [])

/-- What a command leaves behind: a code, what it printed, and why it failed. -/
structure Report where
  code : Nat
  output : String
  complaint : Option String
deriving DecidableEq, Repr

namespace Command

def arguments : Command → List String
  | defaults config => [config]
  | validate config data options => config :: data :: options.toList
  | preview config data options _ _ => config :: (data.toList ++ options.toList)

def perform (inputs : Inputs) : Command → Except Fault (Nat × String)
  | defaults config => do
    let engine ← inputs.mount config none none
    pure (0, engine.values.pretty 0)
  | validate config data options => do
    let engine ← inputs.mount config (some data) options
    let engine := engine.settle.validateAll
    pure (if engine.store.errors.isEmpty then 0 else 1, (errorReport engine).pretty 0)
  | preview config data options step width => do
    let engine ← inputs.mount config data options
    let engine := engine.settle
    let engine := (advance (stepsTo step engine) engine).settle
    pure (0, (Outline.ofWidth width).render engine)

/-- Carries out a command that reads standard input at most once. -/
def run (inputs : Inputs) (command : Command) : Report :=
  let outcome :=
    if 1 < command.arguments.count "-" then .error .standardInputTwice
    else command.perform inputs
  match outcome with
  | .ok (code, text) => ⟨code, text ++ "\n", none⟩
  | .error fault => ⟨1, "", some fault.message⟩

end Command

def run (inputs : Inputs) (arguments : List String) : Report :=
  match Request.read arguments with
  | some (.run command) => command.run inputs
  | some (.answer text) => ⟨0, text, none⟩
  | none => ⟨2, "", some "For more information, try '--help'."⟩

end DeclarativeForm.CommandLine
