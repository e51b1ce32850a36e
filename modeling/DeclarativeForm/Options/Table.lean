import DeclarativeForm.Options.Function
import DeclarativeForm.Schema.Decode

/-!
Tables of options written as JSON: an object of functions, each an object of rows, each a list of
options. A row is selected by the texts of the arguments.
-/

set_option autoImplicit false

namespace DeclarativeForm

/-- Why a value is no table of options. -/
inductive TableFault
  | notAnObject
  | entryNotAnObject (function : String)
  | invalidRow (function row : String) (fault : Json.DecodeFault)
deriving Repr

def TableFault.message : TableFault → String
  | notAnObject => "option table must be an object of function names"
  | entryNotAnObject function => "option table entry '" ++ function ++ "' must be an object"
  | invalidRow function row fault =>
    "invalid options for '" ++ function ++ "' row '" ++ row ++ "': " ++ fault.message

namespace OptionTable

def rows (function : String) : List (String × Json) →
    Except TableFault (List (String × List Choice))
  | [] => .ok []
  | (key, options) :: rest =>
    match Json.Decoder.list Choice.decode options with
    | .error fault => .error (.invalidRow function key fault)
    | .ok options => (rows function rest).map ((key, options) :: ·)

/-- The function of some rows; without a row to select it has no options. -/
def function (rows : List (String × List Choice)) : OptionsFunction :=
  FunctionTable.immediate fun args => .ok ((selectRow rows args).getD [])

def functions : List (String × Json) → Except TableFault FunctionTable
  | [] => .ok []
  | (name, .object members) :: rest =>
    match rows name members with
    | .error fault => .error fault
    | .ok rows => (functions rest).map ((name, function rows) :: ·)
  | (name, _) :: _ => .error (.entryNotAnObject name)

def ofJson : Json → Except TableFault FunctionTable
  | .object members => functions members
  | _ => .error .notAnObject

end OptionTable

end DeclarativeForm
