import DeclarativeForm.Json.Printer
import DeclarativeForm.Text.Quoted

/-!
Decoding JSON values into records. A record is written as an object, or as an array of its fields
in the order of declaration. All faults of a value are ranked by where they lie, members in the
order of their keys, fields that are missing after all members, and the first one is reported.
Members that no field asks for are ignored.
-/

set_option autoImplicit false

namespace DeclarativeForm.Json

inductive DecodeFault
  | wrongType (found : Json) (expected : String)
  | wrongValue (found : String) (expected : String)
  | wrongLength (length : Nat) (expected : String)
  | unknownVariant (name : String) (variants : List String)
  | missingField (name : String)
  | repeatedField (name : String)
  | noAlternative (name : String)
deriving Repr

/-- How a value is called in a diagnostic. -/
def describe : Json → String
  | .null => "null"
  | .bool value => "boolean `" ++ (if value then "true" else "false") ++ "`"
  | .number (.integer value) => "integer `" ++ toString value ++ "`"
  | .number (.double value) => "floating point `" ++ value.toJsonText ++ "`"
  | .string text => "string " ++ Text.quoted text
  | .array _ => "sequence"
  | .object _ => "map"

def describeVariants : List String → String
  | [] => "there are no variants"
  | [name] => "`" ++ name ++ "`"
  | [first, second] => "`" ++ first ++ "` or `" ++ second ++ "`"
  | names => "one of " ++ String.intercalate ", " (names.map fun name => "`" ++ name ++ "`")

def DecodeFault.message : DecodeFault → String
  | wrongType found expected =>
    "invalid type: " ++ describe found ++ ", expected " ++ expected
  | wrongValue found expected => "invalid value: " ++ found ++ ", expected " ++ expected
  | wrongLength length expected =>
    "invalid length " ++ toString length ++ ", expected " ++ expected
  | unknownVariant name variants =>
    "unknown variant `" ++ name ++ "`, expected " ++ describeVariants variants
  | missingField name => "missing field `" ++ name ++ "`"
  | repeatedField name => "duplicate field `" ++ name ++ "`"
  | noAlternative name => "data did not match any variant of untagged enum " ++ name

abbrev Decoder (α : Type) := Json → Except DecodeFault α

namespace Decoder

def value : Decoder Json := .ok

def text : Decoder String
  | .string text => .ok text
  | found => .error (.wrongType found "a string")

def boolean : Decoder Bool
  | .bool value => .ok value
  | found => .error (.wrongType found "a boolean")

/-- A natural number below a limit; `name` is the name of the type in diagnostics. -/
def naturalBelow (limit : Nat) (name : String) : Decoder Nat
  | .number (.integer value) =>
    if 0 ≤ value ∧ value < limit then .ok value.toNat
    else .error (.wrongValue ("integer `" ++ toString value ++ "`") name)
  | found => .error (.wrongType found name)

def count : Decoder Nat := naturalBelow (Nat.pow 2 64) "usize"

def smallCount : Decoder Nat := naturalBelow (Nat.pow 2 32) "u32"

def items {α : Type} (decode : Decoder α) : List Json → Except DecodeFault (List α)
  | [] => .ok []
  | item :: rest =>
    match decode item with
    | .error fault => .error fault
    | .ok decoded => (items decode rest).map (decoded :: ·)

def list {α : Type} (decode : Decoder α) : Decoder (List α)
  | .array values => items decode values
  | found => .error (.wrongType found "a sequence")

def optional {α : Type} (decode : Decoder α) : Decoder (Option α)
  | .null => .ok none
  | found => (decode found).map some

/-- One of some named values. It is a string, or an object whose only member has the name as its
key and null as its value. -/
def variant {α : Type} (variants : List (String × α)) : Decoder α := fun found =>
  let choose (name : String) : Except DecodeFault α :=
    match variants.lookup name with
    | some value => .ok value
    | none => .error (.unknownVariant name (variants.map Prod.fst))
  match found with
  | .string name => choose name
  | .object [(name, content)] => do
    let value ← choose name
    match content with
    | .null => .ok value
    | content => .error (.wrongType content "unit")
  | .object _ => .error (.wrongValue "map" "map with a single key")
  | found => .error (.wrongType found "string or map")

end Decoder

/-- The result of decoding a part of a record: a value, or the first fault and its rank. -/
inductive Ranked (α : Type)
  | decoded (value : α)
  | fault (rank : Nat) (cause : DecodeFault)

namespace Ranked

def ofExcept {α : Type} (rank : Nat) : Except DecodeFault α → Ranked α
  | .ok value => .decoded value
  | .error cause => .fault rank cause

/-- Applies a function to a result; of two faults the one of lower rank stays. -/
def apply {α β : Type} : Ranked (α → β) → Ranked α → Ranked β
  | .decoded f, .decoded value => .decoded (f value)
  | .fault rank cause, .decoded _ => .fault rank cause
  | .decoded _, .fault rank cause => .fault rank cause
  | .fault rank cause, .fault other otherCause =>
    if rank ≤ other then .fault rank cause else .fault other otherCause

def toExcept {α : Type} : Ranked α → Except DecodeFault α
  | .decoded value => .ok value
  | .fault _ cause => .error cause

end Ranked

/-- Where the fields of a record are read from: members with their places, or items. `name` and
`arity` describe the record. -/
inductive Source
  | members (found : List (String × Json))
  | items (found : List Json) (name : String) (arity : Nat)

/-- The members under some names with their places. -/
def membersNamed (names : List String) : Nat → List (String × Json) → List (Nat × Json)
  | _, [] => []
  | place, (key, value) :: rest =>
    if names.contains key then (place, value) :: membersNamed names (place + 1) rest
    else membersNamed names (place + 1) rest

/-- The wording of the length of a record written as an array. -/
def describeArity (name : String) (arity : Nat) : String :=
  "struct " ++ name ++ " with " ++ toString arity
    ++ (if arity = 1 then " element" else " elements")

/-- What stands for a field that is absent: nothing, or values for the two ways of writing. -/
structure Absent (α : Type) where
  asMember : Option α
  asItem : Option α

/-- The part of a record that stands at `index` among its fields, under a name or one of its
aliases. -/
def Source.field {α : Type} (source : Source) (index : Nat) (name : String)
    (aliases : List String) (absent : Absent α) (decode : Decoder α) : Ranked α :=
  match source with
  | .members found =>
    match membersNamed (name :: aliases) 0 found with
    | [] =>
      match absent.asMember with
      | some value => .decoded value
      | none => .fault (found.length + index) (.missingField name)
    | [(place, value)] => .ofExcept place (decode value)
    | (place, value) :: (next, _) :: _ =>
      match decode value with
      | .error cause => .fault place cause
      | .ok _ => .fault next (.repeatedField name)
  | .items found record arity =>
    match found[index]? with
    | some value => .ofExcept index (decode value)
    | none =>
      match absent.asItem with
      | some value => .decoded value
      | none => .fault index (.wrongLength index (describeArity record arity))

/-- Decodes the fields of a record one after the other. -/
structure RecordDecoder (α : Type) where
  arity : Nat
  read : Source → Nat → Ranked α

namespace RecordDecoder

def pure {α : Type} (value : α) : RecordDecoder α := ⟨0, fun _ _ => .decoded value⟩

/-- Adds the fields of a second record to those of a first. -/
def apply {α β : Type} (first : RecordDecoder (α → β)) (second : RecordDecoder α) :
    RecordDecoder β :=
  ⟨first.arity + second.arity, fun source index =>
    (first.read source index).apply (second.read source (index + first.arity))⟩

instance : Functor RecordDecoder where
  map f record := (pure f).apply record

instance : Seq RecordDecoder where
  seq first second := first.apply (second ())

/-- A field that has to be there under one of its names; the first is the one in diagnostics. -/
def requiredAs {α : Type} (name : String) (aliases : List String) (decode : Decoder α) :
    RecordDecoder α :=
  ⟨1, fun source index => source.field index name aliases ⟨none, none⟩ decode⟩

def required {α : Type} (name : String) (decode : Decoder α) : RecordDecoder α :=
  requiredAs name [] decode

/-- A field with a value for its absence. -/
def withDefault {α : Type} (name : String) (default : α) (decode : Decoder α) :
    RecordDecoder α :=
  ⟨1, fun source index => source.field index name [] ⟨some default, some default⟩ decode⟩

def optional {α : Type} (name : String) (decode : Decoder α) : RecordDecoder (Option α) :=
  withDefault name none (Decoder.optional decode)

/-- A field that may be absent from an object or null, but has its place in an array. -/
def nullable {α : Type} (name : String) (decode : Decoder α) : RecordDecoder (Option α) :=
  ⟨1, fun source index =>
    source.field index name [] ⟨some none, none⟩ (Decoder.optional decode)⟩

/-- Decodes a record; `name` is its name in diagnostics. -/
def run {α : Type} (record : RecordDecoder α) (name : String) : Decoder α := fun found =>
  match found with
  | .object members => (record.read (.members members) 0).toExcept
  | .array values =>
    match (record.read (.items values name record.arity) 0).toExcept with
    | .error fault => .error fault
    | .ok value =>
      if record.arity < values.length then
        .error (.wrongLength values.length "fewer elements in array")
      else .ok value
  | found => .error (.wrongType found ("struct " ++ name))

end RecordDecoder

end DeclarativeForm.Json
