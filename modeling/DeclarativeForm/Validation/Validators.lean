import DeclarativeForm.Coercion
import DeclarativeForm.Keyed
import DeclarativeForm.Pattern.Search
import DeclarativeForm.Scope
import DeclarativeForm.Validation.Checksum
import DeclarativeForm.Validation.Password

/-!
What values are checked with. A custom validator looks at one value and the scope around it and may
report an error; a cross-field validator decides whether a field is consistent with the fields it
depends on. Both are found by their names, and patterns are looked for by a matcher that may be any
other than the standard one.
-/

set_option autoImplicit false

namespace DeclarativeForm

/-- Reports what is wrong with a value, if anything. -/
abbrev CustomValidator := Json → Scope → Option String

/-- Decides about a field, given by its path, and the paths it depends on. -/
abbrev CrossValidator := Scope → String → List String → Bool

structure Validators where
  matcher : Pattern.Matcher
  custom : Keyed CustomValidator
  cross : Keyed CrossValidator

namespace Validators

def empty : Validators := ⟨.standard, [], []⟩

def addCustom (validators : Validators) (name : String) (validator : CustomValidator) :
    Validators :=
  { validators with custom := validators.custom.put name validator }

def addCross (validators : Validators) (name : String) (validator : CrossValidator) :
    Validators :=
  { validators with cross := validators.cross.put name validator }

/-- A password needs all four classes of characters. -/
def passwordStrength : CustomValidator := fun value _ =>
  match value with
  | .string text =>
    if text.isEmpty || Password.isVaried text then none
    else some "Password must contain uppercase, lowercase, number, and special character."
  | _ => none

/-- A repeated password agrees with the field `password`. -/
def passwordMatch : CustomValidator := fun value scope =>
  if value.agrees (scope.lookupOrNull "password") then none else some "Passwords do not match."

def fullName : CustomValidator := fun value _ =>
  match value with
  | .string text =>
    if Text.isAllBlank text || decide (2 ≤ (Text.words text).length) then none
    else some "Please enter both first and last name."
  | _ => none

def cardNumber : CustomValidator := fun value _ =>
  let text := value.displayText
  if Text.isAllBlank text || Checksum.accepts text then none
  else some "Please enter a valid card number."

/-- Two texts that are not empty are in order, the field after the one it depends on. -/
def isAfter : CrossValidator := fun scope field dependsOn =>
  match dependsOn with
  | [] => true
  | other :: _ =>
    match scope.lookup field, scope.lookup other with
    | some (.string later), some (.string earlier) =>
      later.isEmpty || earlier.isEmpty || decide (earlier ≤ later)
    | _, _ => true

/-- A field agrees with the one it depends on. -/
def matchesField : CrossValidator := fun scope field dependsOn =>
  match dependsOn with
  | [] => true
  | other :: _ => (scope.lookupOrNull field).agrees (scope.lookupOrNull other)

def builtinWith (matcher : Pattern.Matcher) : Validators :=
  { matcher
    custom :=
      [("validatePasswordStrength", passwordStrength), ("validatePasswordMatch", passwordMatch),
        ("validateFullName", fullName), ("luhnCheck", cardNumber)]
    cross := [("isAfter", isAfter), ("matchesField", matchesField)] }

def builtin : Validators := builtinWith .standard

end Validators

end DeclarativeForm
