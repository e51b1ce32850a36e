import DeclarativeForm.Notice
import DeclarativeForm.Schema.Node
import DeclarativeForm.Validation.Validators

/-!
Checking one value. Every rule has a finding: it passes, it fails with a message, or it cannot be
applied and leaves a notice. The findings are taken in a fixed order and the first failure is the
error of the value; a rule that cannot be applied neither reports nor hides a failure.
-/

set_option autoImplicit false

namespace DeclarativeForm

inductive Finding
  | passes
  | fails (message : String)
  | inapplicable (notice : Notice)
deriving Repr

namespace Finding

def firstFailure : List Finding → Option String
  | [] => none
  | fails message :: _ => some message
  | passes :: rest => firstFailure rest
  | inapplicable _ :: rest => firstFailure rest

/-- The notices of the findings before the first failure. -/
def notices : List Finding → List Notice
  | [] => []
  | fails _ :: _ => []
  | passes :: rest => notices rest
  | inapplicable notice :: rest => notice :: notices rest

/-- Fails with a message if a rule is violated. -/
def ofViolation (violated : Bool) (message : String) : Finding :=
  if violated then fails message else passes

end Finding

def findingOf (rule : Option Rule) (find : Rule → Finding) : Finding :=
  match rule with
  | some rule => find rule
  | none => .passes

/-- A limit compares a measure with the number of a rule. -/
def limitFinding (name fallback : String) (violates : Binary64 → Bool) (rule : Rule) : Finding :=
  match rule.threshold with
  | some limit => .ofViolation (violates limit) (rule.messageOr fallback)
  | none => .inapplicable (.thresholdNotNumeric name rule.value)

def requiredFinding (value : Option Json) (rule : Rule) : Finding :=
  .ofViolation (rule.isEnabled && isMissing value) (rule.messageOr "This field is required.")

def patternFinding (matcher : Pattern.Matcher) (text : String) (rule : Rule) : Finding :=
  match rule.value with
  | .string pattern =>
    match matcher.search pattern text with
    | .found => .passes
    | .absent => .fails (rule.messageOr "Value has an invalid format.")
    | .invalid => .inapplicable (.patternInvalid pattern)
    | .gaveUp => .inapplicable (.patternGaveUp pattern)
  | value => .inapplicable (.patternNotString value)

/-- A custom validator reports nothing. Its message gives way to that of the rule. -/
def customFinding (validators : Validators) (value : Option Json) (scope : Scope)
    (rule : CustomRule) : Finding :=
  match validators.custom.find? rule.function with
  | none => .inapplicable (.unknownValidator rule.function)
  | some validator =>
    match validator (value.getD .null) scope with
    | none => .passes
    | some reported => .fails (if rule.message.isEmpty then reported else rule.message)

/-- A cross-field rule is met by its validator. -/
def crossFinding (validators : Validators) (path : String) (scope : Scope) (rule : CrossRule) :
    Finding :=
  match validators.cross.find? rule.rule with
  | none => .inapplicable (.unknownCrossRule rule.rule)
  | some validator =>
    .ofViolation (!validator scope path rule.dependsOn)
      (if rule.message.isEmpty then "Value is inconsistent with related fields."
        else rule.message)

namespace RuleSet

/-- The findings on the length and the form of a text that is not empty. -/
def textFindings (rules : RuleSet) (matcher : Pattern.Matcher) (value : Option Json) :
    List Finding :=
  match value with
  | some (.string text) =>
    if text.isEmpty then []
    else
      let length := Binary64.ofNat text.length
      [findingOf rules.minLength
          (limitFinding "minLength" "Value is too short." fun limit => length.less limit),
        findingOf rules.maxLength
          (limitFinding "maxLength" "Value is too long." fun limit => limit.less length),
        findingOf rules.pattern (patternFinding matcher text)]
  | _ => []

def rangeFindings (rules : RuleSet) (numeric : Bool) (value : Option Json) : List Finding :=
  match numeric, value.bind Json.toNumber? with
  | true, some number =>
    [findingOf rules.min
        (limitFinding "min" "Value is too small." fun limit => number.less limit),
      findingOf rules.max
        (limitFinding "max" "Value is too large." fun limit => limit.less number)]
  | _, _ => []

/-- The findings of a rule set in the order in which they count. -/
def findings (rules : RuleSet) (numeric : Bool) (value : Option Json) (scope : Scope)
    (validators : Validators) : List Finding :=
  findingOf rules.required (requiredFinding value)
    :: (rules.textFindings validators.matcher value ++ rules.rangeFindings numeric value
      ++ match rules.custom with
        | some rule => [customFinding validators value scope rule]
        | none => [])

def error? (rules : RuleSet) (numeric : Bool) (value : Option Json) (scope : Scope)
    (validators : Validators) : Option String :=
  Finding.firstFailure (rules.findings numeric value scope validators)

end RuleSet

namespace Leaf

/-- The findings of a leaf: its rule set, then its cross-field rules. -/
def findings (leaf : Leaf) (path : String) (value : Option Json) (scope : Scope)
    (validators : Validators) : List Finding :=
  (match leaf.validation with
    | some rules => rules.findings leaf.kind.isNumeric value scope validators
    | none => [])
  ++ leaf.crossValidation.map (crossFinding validators path scope)

def error? (leaf : Leaf) (path : String) (value : Option Json) (scope : Scope)
    (validators : Validators) : Option String :=
  Finding.firstFailure (leaf.findings path value scope validators)

end Leaf

end DeclarativeForm
