import DeclarativeForm.Json.Printer

/-!
Notices: what the library has to say about a form besides its answers. Nothing in a notice changes
an answer; most of them report that a faulty part of a form was left out of account.
-/

set_option autoImplicit false

namespace DeclarativeForm

inductive Notice
  | duplicateName (name parent : String)
  | missingOutputStep (flow step : String)
  | unknownStepField (step name : String)
  | operandNotList (field operator : String)
  | unknownOperator (name field : String)
  | thresholdNotNumeric (rule : String) (value : Json)
  | patternNotString (value : Json)
  | patternInvalid (pattern : String)
  | patternGaveUp (pattern : String)
  | unknownValidator (name : String)
  | unknownCrossRule (name : String)
  | unknownWizardField (name : String)
  | unknownFunction (name : String)
  | fetchFailed (target cause : String)
  | submissionFailed (cause : String)
  | dependenciesUnsettled (passes : Nat)
  | unsupportedKind (field kind : String)
deriving Repr

namespace Notice

/-- Failures are errors, everything else is a warning. -/
def isError : Notice → Bool
  | fetchFailed _ _ => true
  | submissionFailed _ => true
  | _ => false

def message : Notice → String
  | duplicateName name parent => "duplicate field name '" ++ name ++ "' under " ++ parent
  | missingOutputStep flow step =>
    "flow '" ++ flow ++ "' names missing output step '" ++ step ++ "'"
  | unknownStepField step name => "step '" ++ step ++ "' lists unknown field '" ++ name ++ "'"
  | operandNotList field operator =>
    "condition on '" ++ field ++ "' uses '" ++ operator ++ "' with a non-array operand"
  | unknownOperator name field =>
    "unsupported condition operator '" ++ name ++ "' on '" ++ field ++ "'"
  | thresholdNotNumeric rule value =>
    rule ++ " rule has a non-numeric threshold " ++ value.compact
  | patternNotString value => "pattern rule value " ++ value.compact ++ " is not a string"
  | patternInvalid pattern => "pattern '" ++ pattern ++ "' does not compile"
  | patternGaveUp pattern => "pattern '" ++ pattern ++ "' gave up on input"
  | unknownValidator name =>
    "custom validator '" ++ name ++ "' is not registered; treating value as valid"
  | unknownCrossRule name => "cross-field rule '" ++ name ++ "' is not registered"
  | unknownWizardField name => "wizard step lists unknown field '" ++ name ++ "'"
  | unknownFunction name => "options function '" ++ name ++ "' is not registered"
  | fetchFailed target cause => "options fetch for " ++ target ++ " failed: " ++ cause
  | submissionFailed cause => "form submission failed: " ++ cause
  | dependenciesUnsettled passes =>
    "option dependencies did not settle after " ++ toString passes
      ++ " passes; check dependsOn for cycles"
  | unsupportedKind field kind => "field '" ++ field ++ "' has unsupported type '" ++ kind ++ "'"

def line (notice : Notice) : String :=
  (if notice.isError then "ERROR: " else "WARN: ") ++ notice.message

end Notice

end DeclarativeForm
