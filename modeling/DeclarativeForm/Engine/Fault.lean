import DeclarativeForm.Path.Reader

/-!
Why an operation on a form is rejected. Failed validation is no rejection; it is recorded in the
error map.
-/

set_option autoImplicit false

namespace DeclarativeForm

inductive FormError
  | invalidPath (text : String) (fault : PathFault)
  | unknownField (path : String)
  | notRepeatable (path : String)
  | itemLimit (path : String) (most : Nat)
  | itemMinimum (path : String) (least : Nat)
  | indexOutOfRange (path : String) (index : Nat)
deriving DecidableEq, Repr

def FormError.message : FormError → String
  | invalidPath text fault => "invalid path '" ++ text ++ "': " ++ fault.message
  | unknownField path => "no field is addressed by '" ++ path ++ "'"
  | notRepeatable path => "'" ++ path ++ "' is not a repeatable field"
  | itemLimit path most =>
    "'" ++ path ++ "' already holds the maximum of " ++ toString most ++ " item(s)"
  | itemMinimum path least =>
    "'" ++ path ++ "' must keep at least " ++ toString least ++ " item(s)"
  | indexOutOfRange path index =>
    "'" ++ path ++ "' has no item at index " ++ toString index

def parsePath (text : String) : Except FormError FieldPath :=
  match FieldPath.parse text with
  | .ok path => .ok path
  | .error fault => .error (.invalidPath text fault)

end DeclarativeForm
