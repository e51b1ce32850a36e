import DeclarativeForm.Path.Reindex

/-!
The commands of the command line and the options they take. Their help texts are laid out from this
description.
-/

set_option autoImplicit false

namespace DeclarativeForm.CommandLine

structure Parameter where
  short : Option Char
  long : String
  valueName : String
  description : String
  isRequired : Bool
  /-- The value is a number. -/
  isNumber : Bool
  /-- The value that is taken if none is given. -/
  standard : Option String
deriving Repr

structure Subcommand where
  name : String
  about : String
  parameters : List Parameter
deriving Repr

/-- The number that a text writes; a plus sign may come first. -/
def number? (text : String) : Option Nat := bracketedIndex? text.toList

namespace Parameter

def accepts (parameter : Parameter) (value : String) : Bool :=
  !parameter.isNumber || (number? value).isSome

def config (description : String) : Parameter :=
  ⟨some 'c', "config", "SPEC", description, true, false, none⟩

/-- Where the values to begin with are written. -/
def data (description : String) (isRequired : Bool) : Parameter :=
  ⟨some 'd', "data", "SPEC", description, isRequired, false, none⟩

def options (description : String) : Parameter :=
  ⟨none, "options", "SPEC", description, false, false, none⟩

def numbered (long valueName description standard : String) : Parameter :=
  ⟨none, long, valueName, description, false, true, some standard⟩

/-- How an option is given, without its short form. -/
def usage (parameter : Parameter) : String :=
  "--" ++ parameter.long ++ " <" ++ parameter.valueName ++ ">"

/-- How an option is given, with its short form. -/
def label (parameter : Parameter) : String :=
  match parameter.short with
  | some c => "-" ++ String.singleton c ++ ", " ++ parameter.usage
  | none => "    " ++ parameter.usage

/-- What an option is for, and the value taken without it. -/
def help (parameter : Parameter) : String :=
  match parameter.standard with
  | some standard =>
    (if parameter.description.isEmpty then "" else parameter.description ++ " ")
      ++ "[default: " ++ standard ++ "]"
  | none => parameter.description

end Parameter

namespace Subcommand

def defaults : Subcommand :=
  { name := "defaults"
    about := "Print the values a freshly mounted form starts with"
    parameters :=
      [.config "Form spec: file path, inline payload, or \"-\" for stdin"] }

def validate : Subcommand :=
  { name := "validate"
    about := "Validate data against a form and print the error map"
    parameters :=
      [.config "", .data "Data spec: file path, inline payload, or \"-\" for stdin" true,
        .options ("Static option table: \x7b\"function\": \x7b\"dep|dep\" | \"*\": [options]"
          ++ "\x7d\x7d")] }

def preview : Subcommand :=
  { name := "preview"
    about := "Render a plain-text outline of the form"
    parameters :=
      [.config "", .data "" false, .options "",
        .numbered "step" "N" "Wizard step to show, starting at 1" "1",
        .numbered "width" "COLUMNS" "" "80"] }

def all : List Subcommand := [defaults, validate, preview]

end Subcommand

namespace Help

def helpLabels : List (String × String) := [("-h, --help", "Print help")]

def helpCommand : String × String :=
  ("help", "Print this message or the help of the given subcommand(s)")

/-- The lines of a list of names and what they stand for, in two columns. -/
def columns (entries : List (String × String)) : List String :=
  let width := entries.foldl (fun width entry => max width entry.1.length) 0 + 2
  entries.map fun (name, text) =>
    "  " ++ name ++ String.ofList (List.replicate (width - name.length) ' ') ++ text

def page (about usage : String) (sections : List (String × List (String × String))) : String :=
  about ++ "\n\nUsage: formflow " ++ usage ++ "\n"
    ++ String.join (sections.map fun (title, entries) =>
      "\n" ++ title ++ ":\n" ++ String.join ((columns entries).map (· ++ "\n")))

def program : String :=
  page "Inspect, validate and preview declarative form configurations" "<COMMAND>"
    [("Commands", Subcommand.all.map (fun subcommand => (subcommand.name, subcommand.about))
        ++ [helpCommand]),
      ("Options", [("-h, --help", "Print help"), ("-V, --version", "Print version")])]

def subcommand (subcommand : Subcommand) : String :=
  let required := subcommand.parameters.filter Parameter.isRequired
  let words := [subcommand.name]
    ++ (if required.length < subcommand.parameters.length then ["[OPTIONS]"] else [])
    ++ required.map Parameter.usage
  page subcommand.about (String.intercalate " " words)
    [("Options",
      subcommand.parameters.map (fun parameter => (parameter.label, parameter.help))
        ++ helpLabels)]

/-- The help text of the command that shows help. -/
def ofHelp : String :=
  page helpCommand.2 "help [COMMAND]..."
    [("Arguments", [("[COMMAND]...", "Print help for the subcommand(s)")])]

def version : String := "formflow 0.1.0\n"

example : columns [("a", "x"), ("bcd", "")] = ["  a    x", "  bcd  "] := by decide +kernel

end Help

end DeclarativeForm.CommandLine
