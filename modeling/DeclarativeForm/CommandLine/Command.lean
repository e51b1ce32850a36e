import DeclarativeForm.CommandLine.Parameter

/-!
Reading the arguments of the command line. An option may be given once; its value is attached to it
or is the next argument, which then begins with no dash unless it is a dash alone. A sign that asks
for help takes effect where it stands, if nothing before it is wrong.
-/

set_option autoImplicit false

namespace DeclarativeForm.CommandLine

inductive Command
  | defaults (config : String)
  | validate (config data : String) (options : Option String)
  | preview (config : String) (data options : Option String) (step width : Nat)
deriving DecidableEq, Repr

inductive Request
  | run (command : Command)
  /-- A text to be shown. -/
  | answer (text : String)
deriving DecidableEq, Repr

inductive Argument
  | terminator
  | help
  | option (parameter : Parameter) (value : Option String)
  | other

/-- The values given to options, by their long names, or that help was asked for. -/
inductive Reading
  | given (values : List (String × String))
  | help

/-- What follows an equality sign, if there is one. -/
def attached? : List Char → Option String
  | '=' :: value => some (String.ofList value)
  | _ => none

def Subcommand.argument (subcommand : Subcommand) (text : String) : Argument :=
  match text.toList with
  | ['-', '-'] => .terminator
  | '-' :: '-' :: text =>
    let name := String.ofList (text.takeWhile (· ≠ '='))
    let value := attached? (text.dropWhile (· ≠ '='))
    if name = "help" then (if value.isNone then .help else .other)
    else match subcommand.parameters.find? fun parameter => parameter.long = name with
      | some parameter => .option parameter value
      | none => .other
  | '-' :: c :: text =>
    if c = 'h' then .help
    else match subcommand.parameters.find? fun parameter => parameter.short = some c with
      | some parameter =>
        .option parameter
          (if text.isEmpty then none else (attached? text).or (some (String.ofList text)))
      | none => .other
  | _ => .other

/-- Whether an argument can be the value of the option before it. -/
def isPlain (text : String) : Bool := text.toList.head? ≠ some '-' || text = "-"

/-- Adds the value of an option that has none, if it takes the value. -/
def assign (given : List (String × String)) (parameter : Parameter) (value : String) :
    Option (List (String × String)) :=
  if (given.lookup parameter.long).isSome || !parameter.accepts value then none
  else some ((parameter.long, value) :: given)

def Subcommand.read (subcommand : Subcommand) (given : List (String × String)) :
    List String → Option Reading
  | [] => some (.given given)
  | text :: rest =>
    match subcommand.argument text with
    | .terminator => if rest.isEmpty then some (.given given) else none
    | .help => some .help
    | .option parameter (some value) =>
      (assign given parameter value).bind fun given => subcommand.read given rest
    | .option parameter none =>
      match rest with
      | value :: rest =>
        if isPlain value then
          (assign given parameter value).bind fun given => subcommand.read given rest
        else none
      | [] => none
    | .other => none

/-- Reads the arguments of a command and builds it from the values given. -/
def Subcommand.request (subcommand : Subcommand)
    (build : (String → Option String) → Option Command) (texts : List String) :
    Option Request :=
  match subcommand.read [] texts with
  | none => none
  | some .help => some (.answer (Help.subcommand subcommand))
  | some (.given values) => (build fun name => values.lookup name).map .run

namespace Command

def defaultsOf (value : String → Option String) : Option Command :=
  (value "config").map defaults

def validateOf (value : String → Option String) : Option Command := do
  return validate (← value "config") (← value "data") (value "options")

def previewOf (value : String → Option String) : Option Command := do
  let number (name : String) (standard : Nat) : Nat := ((value name).bind number?).getD standard
  return preview (← value "config") (value "data") (value "options") (number "step" 1)
    (number "width" 80)

end Command

def helpFor : List String → Option String
  | [] => some Help.program
  | [name] =>
    if name = "help" then some Help.ofHelp
    else (Subcommand.all.find? fun subcommand => subcommand.name = name).map Help.subcommand
  | _ => none

/-- Reads the arguments of the program; there is no request if they are wrong. -/
def Request.read : List String → Option Request
  | [] => none
  | text :: rest =>
    if text = "defaults" then Subcommand.defaults.request Command.defaultsOf rest
    else if text = "validate" then Subcommand.validate.request Command.validateOf rest
    else if text = "preview" then Subcommand.preview.request Command.previewOf rest
    else if text = "help" then (helpFor rest).map .answer
    else if text = "--help" || "-h".toList.isPrefixOf text.toList then some (.answer Help.program)
    else if text = "--version" || "-V".toList.isPrefixOf text.toList then
      some (.answer Help.version)
    else none

example : Request.read ["preview", "-c", "f", "--step=2"]
    = some (.run (.preview "f" none none 2 80)) := by decide +kernel
example : Request.read ["preview", "-cf", "--step", "-1"] = none := by decide +kernel

end DeclarativeForm.CommandLine
