import DeclarativeForm.Json.Printer
import DeclarativeForm.Schema.Decode

/-!
The envelope of a form: the structure every declaration has to have before its parts are decoded.
A check lists all violations of a value with the places where they lie. Checks are put together
from a few parts; what is said of one type of value says nothing of the others. At each object the
special demands come first, then the members in the order of their names, then the required
members, then the type.
-/

set_option autoImplicit false

namespace DeclarativeForm.Envelope

open Json

inductive Demand
  | type (name : String)
  | member (name : String)
  | oneOf (names : List String)
  | anyOf
deriving DecidableEq, Repr

/-- A demand that a value at a place does not meet. -/
structure Violation where
  place : List String
  found : Json
  demand : Demand
deriving Repr

def escapeToken (token : String) : String :=
  String.ofList (token.toList.flatMap fun c =>
    if c = '~' then ['~', '0'] else if c = '/' then ['~', '1'] else [c])

def pointer (place : List String) : String :=
  if place.isEmpty then "<root>"
  else place.foldl (fun text token => text ++ "/" ++ escapeToken token) ""

def describeNames : List String → String
  | [] => ""
  | [name] => quote name
  | [first, last] => quote first ++ " or " ++ quote last
  | name :: rest => quote name ++ ", " ++ describeNames rest

def Violation.message (violation : Violation) : String :=
  pointer violation.place ++ ": " ++
    match violation.demand with
    | .type name => violation.found.compact ++ " is not of type " ++ quote name
    | .member name => quote name ++ " is a required property"
    | .oneOf names => violation.found.compact ++ " is not one of " ++ describeNames names
    | .anyOf =>
      violation.found.compact
        ++ " is not valid under any of the schemas listed in the 'anyOf' keyword"

/-- All violations of a value at a place. -/
abbrev Check := List String → Json → List Violation

def demand (demanded : Demand) (meets : Json → Bool) : Check := fun place found =>
  if meets found then [] else [⟨place, found, demanded⟩]

def isString : Check := demand (.type "string") fun found => found.text?.isSome

def isArray : Check := demand (.type "array") Json.isArray

def isObject : Check := demand (.type "object") Json.isObject

/-- Says the violations of several checks one after the other. -/
def all (checks : List Check) : Check := fun place found =>
  checks.flatMap fun check => check place found

/-- Checks the members of an object that are there. -/
def members (checks : List (String × Check)) : Check := fun place found =>
  checks.flatMap fun (name, check) =>
    match found.member? name with
    | some value => check (place ++ [name]) value
    | none => []

def requires (names : List String) : Check := fun place found =>
  match found with
  | .object members =>
    (names.filter fun name => (Members.find? name members).isNone).map fun name =>
      ⟨place, found, .member name⟩
  | _ => []

def eachMember (check : Check) : Check := fun place found =>
  found.members.flatMap fun (name, value) => check (place ++ [name]) value

def eachItem (check : Check) : Check := fun place found =>
  found.items.zipIdx.flatMap fun (value, index) => check (place ++ [toString index]) value

/-- Demands that one of several checks has nothing to say. -/
def anyOf (checks : List Check) : Check :=
  demand .anyOf fun found => checks.any fun check => (check [] found).isEmpty

def arrayOf (check : Check) : Check := all [eachItem check, isArray]

def rule : Check := all [members [("message", isString)], isObject]

def optionsSource : Check :=
  all
    [anyOf [requires ["function"], requires ["functionName"]],
      members
        [("dependsOn", anyOf [isString, arrayOf isString]),
          ("function", isString),
          ("functionName", isString),
          ("params", arrayOf isString)],
      isObject]

def condition : Check :=
  all
    [members [("field", isString), ("operator", isString)],
      requires ["field", "operator"],
      isObject]

def showWhen : Check :=
  all
    [members [("conditions", arrayOf condition), ("logic", isString)],
      requires ["conditions"],
      isObject]

def flowStep : Check :=
  all
    [members [("id", isString), ("optionsSource", optionsSource)],
      requires ["id", "optionsSource"],
      isObject]

/-- A flow has steps and names the one that gives its value. -/
def flowDemands : Check := fun place found =>
  match found.member? "type" with
  | some (.string "dynamic-flow") => requires ["flow", "outputStepId"] place found
  | _ => []

/-- A field whose fields are nested less deeply than the number given. -/
def fieldWithin : Nat → Check
  | 0 => fun _ _ => []
  | depth + 1 =>
    all
      [flowDemands,
        members
          [("fields", arrayOf (fieldWithin depth)),
            ("flow", arrayOf flowStep),
            ("name", isString),
            ("optionsSource", optionsSource),
            ("showWhen", showWhen),
            ("type", isString),
            ("validation", all [eachMember rule, isObject])],
        requires ["name"],
        isObject]

def field : Check := fun place found => fieldWithin found.depth place found

def wizardStep : Check :=
  all
    [members [("fields", arrayOf isString), ("id", isString), ("title", isString)],
      requires ["id", "fields"],
      isObject]

def kind : Check :=
  demand (.oneOf ["standard", "wizard"]) fun found =>
    found.text? == some "standard" || found.text? == some "wizard"

def form : Check :=
  all
    [members
        [("description", isString),
          ("fields", arrayOf field),
          ("steps", arrayOf wizardStep),
          ("title", isString),
          ("type", kind)],
      requires ["fields"],
      isObject]

def violations (found : Json) : List Violation := form [] found

end DeclarativeForm.Envelope
