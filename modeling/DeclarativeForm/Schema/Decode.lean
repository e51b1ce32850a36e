import DeclarativeForm.Json.Decode
import DeclarativeForm.Schema.Form

/-!
Decoding the parts of a form from JSON. Every part is a record whose members have the names of its
declaration; a node is told apart by its `type`, and one without a type is a text field.
-/

set_option autoImplicit false

namespace DeclarativeForm

open Json
open Json.RecordDecoder

def Choice.decode : Decoder Choice :=
  run
    (Choice.mk <$> required "value" Decoder.text
      <*> required "label" Decoder.text
      <*> optional "description" Decoder.text
      <*> optional "icon" Decoder.text)
    "FieldOption"

def Dependencies.decode : Decoder Dependencies := fun found =>
  match Decoder.text found with
  | .ok path => .ok (.one path)
  | .error _ =>
    match Decoder.list Decoder.text found with
    | .ok paths => .ok (.many paths)
    | .error _ => .error (.noAlternative "DependsOn")

def OptionsSource.decode : Decoder OptionsSource :=
  run
    (OptionsSource.mk <$> requiredAs "function" ["functionName"] Decoder.text
      <*> optional "dependsOn" Dependencies.decode
      <*> withDefault "params" [] (Decoder.list Decoder.text)
      <*> optional "cache" Decoder.boolean)
    "OptionsSource"

def Rule.decode : Decoder Rule :=
  run
    (Rule.mk <$> withDefault "value" .null Decoder.value
      <*> withDefault "message" "" Decoder.text)
    "ValidationRule"

def CustomRule.decode : Decoder CustomRule :=
  run
    (CustomRule.mk <$> requiredAs "function" ["functionName"] Decoder.text
      <*> withDefault "message" "" Decoder.text)
    "CustomRule"

def RuleSet.decode : Decoder RuleSet :=
  run
    (RuleSet.mk <$> nullable "required" Rule.decode
      <*> nullable "minLength" Rule.decode
      <*> nullable "maxLength" Rule.decode
      <*> nullable "min" Rule.decode
      <*> nullable "max" Rule.decode
      <*> nullable "pattern" Rule.decode
      <*> nullable "custom" CustomRule.decode)
    "ValidationRuleSet"

def CrossRule.decode : Decoder CrossRule :=
  run
    (CrossRule.mk <$> required "rule" Decoder.text
      <*> withDefault "dependsOn" [] (Decoder.list Decoder.text)
      <*> withDefault "message" "" Decoder.text)
    "CrossValidationRule"

def Operator.decode : Decoder Operator := fun found => (Decoder.text found).map Operator.ofName

def Condition.decode : Decoder Condition :=
  run
    (Condition.mk <$> required "field" Decoder.text
      <*> required "operator" Operator.decode
      <*> withDefault "value" .null Decoder.value)
    "Condition"

def Logic.decode : Decoder Logic := Decoder.variant [("and", .all), ("or", .any)]

def ConditionGroup.decode : Decoder ConditionGroup :=
  run
    (ConditionGroup.mk <$> withDefault "conditions" [] (Decoder.list Condition.decode)
      <*> withDefault "logic" .all Logic.decode)
    "ShowWhen"

def LeafKind.decode : Decoder LeafKind := fun found => (Decoder.text found).map LeafKind.ofName

def Leaf.decode : Decoder Leaf :=
  run
    (Leaf.mk <$> required "name" Decoder.text
      <*> withDefault "type" .text LeafKind.decode
      <*> optional "label" Decoder.text
      <*> optional "placeholder" Decoder.text
      <*> optional "helpText" Decoder.text
      <*> optional "tooltip" Decoder.text
      <*> optional "defaultValue" Decoder.value
      <*> optional "validation" RuleSet.decode
      <*> optional "showWhen" ConditionGroup.decode
      <*> withDefault "options" [] (Decoder.list Choice.decode)
      <*> optional "optionsSource" OptionsSource.decode
      <*> withDefault "crossValidation" [] (Decoder.list CrossRule.decode)
      <*> withDefault "showPasswordStrength" false Decoder.boolean
      <*> withDefault "characterCounter" false Decoder.boolean)
    "LeafField"

def FlowStep.decode : Decoder FlowStep :=
  run
    (FlowStep.mk <$> required "id" Decoder.text
      <*> withDefault "label" "" Decoder.text
      <*> optional "placeholder" Decoder.text
      <*> optional "helpText" Decoder.text
      <*> required "optionsSource" OptionsSource.decode
      <*> optional "validation" RuleSet.decode)
    "FlowStep"

def Flow.decode : Decoder Flow :=
  run
    (Flow.mk <$> required "name" Decoder.text
      <*> optional "label" Decoder.text
      <*> optional "helpText" Decoder.text
      <*> optional "validation" RuleSet.decode
      <*> optional "showWhen" ConditionGroup.decode
      <*> withDefault "flow" [] (Decoder.list FlowStep.decode)
      <*> required "outputStepId" Decoder.text
      <*> withDefault "showAllSteps" false Decoder.boolean)
    "DynamicFlowField"

/-- A section with the nodes it groups, each read by the decoder given. -/
def Section.decodeWith (node : Decoder Node) : Decoder Node :=
  run
    ((fun name title label description collapsible defaultCollapsed columns showWhen fields =>
        Node.group
          { name, title, label, description, collapsible, defaultCollapsed, columns, showWhen }
          fields)
      <$> withDefault "name" "" Decoder.text
      <*> optional "title" Decoder.text
      <*> optional "label" Decoder.text
      <*> optional "description" Decoder.text
      <*> withDefault "collapsible" false Decoder.boolean
      <*> withDefault "defaultCollapsed" false Decoder.boolean
      <*> optional "columns" Decoder.smallCount
      <*> optional "showWhen" ConditionGroup.decode
      <*> withDefault "fields" [] (Decoder.list node))
    "SectionField"

/-- A repeatable with the nodes of its template, each read by the decoder given. -/
def Repeatable.decodeWith (node : Decoder Node) : Decoder Node :=
  run
    ((fun name label sectionTitle description addButtonLabel removeButtonLabel maxItems
          defaultValue validation showWhen fields =>
        Node.repeatable
          { name, label, sectionTitle, description, addButtonLabel, removeButtonLabel, maxItems,
            defaultValue, validation, showWhen }
          fields)
      <$> required "name" Decoder.text
      <*> optional "label" Decoder.text
      <*> optional "sectionTitle" Decoder.text
      <*> optional "description" Decoder.text
      <*> optional "addButtonLabel" Decoder.text
      <*> optional "removeButtonLabel" Decoder.text
      <*> optional "maxItems" Decoder.count
      <*> optional "defaultValue" Decoder.value
      <*> optional "validation" RuleSet.decode
      <*> optional "showWhen" ConditionGroup.decode
      <*> withDefault "fields" [] (Decoder.list node))
    "RepeatableField"

/-- The `type` of a node; a node without one is a text field. -/
def Node.tag (found : Json) : String := ((found.member? "type").bind Json.text?).getD "text"

/-- Decodes nodes nested less deeply than the number given. -/
def Node.decodeWithin : Nat → Decoder Node
  | 0 => fun found => .error (.wrongType found "a node")
  | depth + 1 => fun found =>
    let tag := Node.tag found
    if tag = "section" then Section.decodeWith (Node.decodeWithin depth) found
    else if tag = "repeatable" then Repeatable.decodeWith (Node.decodeWithin depth) found
    else if tag = "dynamic-flow" then (Flow.decode found).map Node.flow
    else (Leaf.decode found).map Node.leaf

namespace Json

mutual

def depth : Json → Nat
  | .array items => depthOfItems items + 1
  | .object members => depthOfMembers members + 1
  | _ => 1
termination_by structural value => value

def depthOfItems : List Json → Nat
  | [] => 0
  | value :: rest => max (depth value) (depthOfItems rest)
termination_by structural items => items

def depthOfMembers : List (String × Json) → Nat
  | [] => 0
  | (_, value) :: rest => max (depth value) (depthOfMembers rest)
termination_by structural members => members

end

end Json

/-- Decodes a node. A node lies deeper than the nodes inside it, so the depth of the value is
enough. -/
def Node.decode : Decoder Node := fun found => Node.decodeWithin found.depth found

def FormKind.decode : Decoder FormKind :=
  Decoder.variant [("standard", .standard), ("wizard", .wizard)]

def WizardStep.decode : Decoder WizardStep :=
  run
    (WizardStep.mk <$> required "id" Decoder.text
      <*> withDefault "title" "" Decoder.text
      <*> optional "description" Decoder.text
      <*> withDefault "fields" [] (Decoder.list Decoder.text))
    "FormStep"

def SubmitMessages.decode : Decoder SubmitMessages :=
  run
    (SubmitMessages.mk <$> nullable "successMessage" Decoder.text
      <*> nullable "errorMessage" Decoder.text
      <*> nullable "loadingMessage" Decoder.text)
    "SubmitMessages"

def Trigger.decode : Decoder Trigger :=
  Decoder.variant [("blur", .blur), ("change", .change), ("submit", .submit)]

def ValidationTiming.decode : Decoder ValidationTiming :=
  run
    (ValidationTiming.mk <$> withDefault "showErrorsOn" .blur Trigger.decode
      <*> withDefault "validateOnChange" false Decoder.boolean)
    "ValidationBehaviour"

def Form.decode : Decoder Form :=
  run
    (Form.mk <$> withDefault "title" "" Decoder.text
      <*> optional "description" Decoder.text
      <*> withDefault "type" .standard FormKind.decode
      <*> withDefault "steps" [] (Decoder.list WizardStep.decode)
      <*> withDefault "fields" [] (Decoder.list Node.decode)
      <*> optional "onSubmit" SubmitMessages.decode
      <*> optional "submitButtonLabel" Decoder.text
      <*> optional "validation" ValidationTiming.decode)
    "FormConfig"

end DeclarativeForm
