import DeclarativeForm.Json.Reader
import DeclarativeForm.Schema.Envelope
import DeclarativeForm.Schema.Lint

/-!
Reading a form: the envelope is checked first, then the parts are decoded, then the notices about
the form are collected.
-/

set_option autoImplicit false

namespace DeclarativeForm

inductive FormFault
  | notJson (error : Json.SyntaxError)
  | malformed (violations : List Envelope.Violation)
  | mismatch (fault : Json.DecodeFault)
deriving Repr

def FormFault.message : FormFault → String
  | notJson error => "failed to parse form configuration JSON: " ++ error.message
  | malformed violations =>
    "form configuration is malformed:\n  "
      ++ String.intercalate "\n  " (violations.map Envelope.Violation.message)
  | mismatch fault =>
    "form configuration does not match the field schema: " ++ fault.message

def Form.ofJson (declaration : Json) : Except FormFault Form :=
  match Envelope.violations declaration with
  | [] =>
    match Form.decode declaration with
    | .ok form => .ok form
    | .error fault => .error (.mismatch fault)
  | violations => .error (.malformed violations)

def Form.ofText (text : String) : Except FormFault Form :=
  match Json.parse text with
  | .ok declaration => Form.ofJson declaration
  | .error error => .error (.notJson error)

def Form.notices (form : Form) : List Notice := Lint.form form

end DeclarativeForm
