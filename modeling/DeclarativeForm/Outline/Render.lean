import DeclarativeForm.Outline.View
import DeclarativeForm.Text.Wrap.Basic

/-!
The outline of a form: its current step as plain text, with a line for every fact. Nested nodes are
indented; long texts are wrapped, everything else stays on its line.
-/

set_option autoImplicit false

namespace DeclarativeForm

structure Outline where
  width : Nat
deriving DecidableEq, Repr

namespace Outline

def leastWidth : Nat := 20

def ofWidth (width : Nat) : Outline := ⟨max width leastWidth⟩

def standard : Outline := ofWidth 80

def indentation (depth : Nat) : String := String.ofList (List.replicate (2 * depth) ' ')

def wrapped (outline : Outline) (depth : Nat) (text : String) : List String :=
  (Text.wrap (max (outline.width - 2 * depth) (leastWidth / 2)) text).map (indentation depth ++ ·)

/-- A heading at a depth and the line under it. -/
def underlined (depth : Nat) (title : String) (mark : Char) : List String :=
  if title.isEmpty then []
  else
    [indentation depth ++ title,
      indentation depth ++ String.ofList (List.replicate (Text.width title) mark)]

def described (outline : Outline) (depth : Nat) (description : Option String) : List String :=
  match description with
  | some text => outline.wrapped depth text
  | none => []

def errorLines (depth : Nat) (error : Option String) : List String :=
  match error with
  | some message => [indentation depth ++ "! " ++ message]
  | none => []

def labelOf (options : List Choice) (value : String) : Option String :=
  (options.find? fun option => option.value == value).map Choice.label

def barred (labels : List String) : String := String.intercalate " | " labels

def orDash (text : String) : String := if text.isEmpty then "-" else text

/-- The value of a leaf as it is shown: passwords are hidden, chosen options go by their labels. -/
def shownValue (view : LeafView) : String :=
  match view.value with
  | none => "-"
  | some value =>
    let hidden := view.field.kind = .password && !view.isRevealed
    let isChoice := view.field.kind.isChoice
    let labelled (text : String) : String := (labelOf view.options text).getD text
    match value with
    | .string text =>
      if hidden then String.ofList (List.replicate text.length '*')
      else if isChoice then labelled text
      else orDash text
    | .bool flag =>
      if view.field.kind = .switch then (if flag then "on" else "off") else value.displayText
    | .array items =>
      if isChoice then
        String.intercalate ", " (items.map fun item => labelled item.displayText)
      else orDash value.displayText
    | value => orDash value.displayText

/-- What can be chosen, where it is of interest. -/
def optionLines (outline : Outline) (depth : Nat) (view : LeafView) : List String :=
  if view.loading then [indentation depth ++ "(loading options)"]
  else if view.field.kind.isChoice && (view.isOpen || view.value.isNone) then
    let labels := barred (view.options.map Choice.label)
    if labels.isEmpty then [indentation depth ++ "(no options)"]
    else outline.wrapped depth ("options: " ++ labels)
  else []

def strengthLines (depth : Nat) (strength : Option Password.Strength) : List String :=
  match strength with
  | some strength =>
    [indentation depth ++ "strength: " ++ strength.label ++ " (" ++ toString strength.score
      ++ "/5)"]
  | none => []

/-- The line that counts the characters of a text. -/
def counterLines (depth : Nat) (view : LeafView) : List String :=
  match view.field.characterCounter, view.value with
  | true, some (.string text) =>
    let most := (view.field.validation.bind RuleSet.maxLength).bind Rule.thresholdCount
    let limit := match most with
      | some most => "/" ++ toString most
      | none => ""
    [indentation depth ++ toString text.length ++ limit ++ " characters"]
  | _, _ => []

def leafLines (outline : Outline) (depth : Nat) (view : LeafView) : List String :=
  let required := view.field.validation.any RuleSet.isRequired
  (indentation depth ++ view.field.displayLabel ++ (if required then " *" else "") ++ ": "
      ++ shownValue view)
    :: (outline.optionLines (depth + 1) view ++ strengthLines (depth + 1) view.strength
      ++ counterLines (depth + 1) view ++ outline.described (depth + 1) view.field.helpText
      ++ errorLines (depth + 1) view.error)

/-- What stands behind the value of a step of a flow. -/
def flowStepNote (view : FlowStepView) : String :=
  if !view.enabled then " (locked)"
  else if view.loading then " (loading options)"
  else if view.value.isEmpty then
    if view.options.isEmpty then " (no options)"
    else " [" ++ barred (view.options.map Choice.label) ++ "]"
  else ""

def flowStepLines (depth index : Nat) (view : FlowStepView) : List String :=
  let value := (labelOf view.options view.value).getD (orDash view.value)
  (indentation depth ++ toString (index + 1) ++ ". " ++ view.step.label ++ ": " ++ value
      ++ flowStepNote view)
    :: errorLines (depth + 1) view.error

/-- A flow with its steps; those that are locked are left out unless the flow shows all. -/
def flowLines (depth : Nat) (view : FlowView) : List String :=
  let state := if view.complete then "complete" else "incomplete"
  let steps := view.steps.zipIdx.filter fun entry => view.flow.showAllSteps || entry.1.enabled
  (indentation depth ++ view.flow.label.getD view.flow.name ++ " (" ++ state ++ ")")
    :: (steps.flatMap fun (step, index) => flowStepLines (depth + 1) index step)
    ++ errorLines (depth + 1) view.error

mutual

def viewLines (outline : Outline) : View → List String
  | .leaf place view => outline.leafLines place.depth view
  | .unsupported place field =>
    [indentation place.depth ++ field.displayLabel ++ ": [unsupported field type '"
      ++ field.kind.name ++ "']"]
  | .group place head children =>
    underlined place.depth head.displayTitle '-'
      ++ outline.described place.depth head.description ++ viewListLines outline children
  | .repeatable place view items =>
    let removal := if view.canRemove then
        " [" ++ view.head.removeButtonLabel.getD "Remove" ++ "]"
      else ""
    let addition := if view.canAdd then
        [indentation (place.depth + 1) ++ "[" ++ view.head.addButtonLabel.getD "Add item" ++ "]"]
      else []
    (indentation place.depth ++ view.head.displayTitle ++ " (" ++ toString view.count
        ++ " item(s))")
      :: (itemLines outline (place.depth + 1) removal 1 items ++ addition
        ++ errorLines (place.depth + 1) view.error)
  | .flow place view => flowLines place.depth view
termination_by structural view => view

def viewListLines (outline : Outline) : List View → List String
  | [] => []
  | view :: rest => viewLines outline view ++ viewListLines outline rest
termination_by structural views => views

def itemLines (outline : Outline) (depth : Nat) (removal : String) (number : Nat) :
    List (List View) → List String
  | [] => []
  | item :: rest =>
    (indentation depth ++ "#" ++ toString number ++ removal)
      :: (viewListLines outline item ++ itemLines outline depth removal (number + 1) rest)
termination_by structural items => items

end

def stepLines (engine : Engine) : List String :=
  match engine.currentStep? with
  | some step =>
    ["Step " ++ toString (engine.navigator.current + 1) ++ " of "
      ++ toString engine.navigator.total ++ ": " ++ step.title]
  | none => []

def action (engine : Engine) : String :=
  if engine.navigator.isLast then engine.form.submitButtonLabel.getD "Submit" else "Next"

def lines (outline : Outline) (engine : Engine) : List String :=
  underlined 0 engine.form.title '=' ++ outline.described 0 engine.form.description
    ++ stepLines engine ++ viewListLines outline engine.views
    ++ ["[" ++ action engine ++ "]", engine.status.message]

def render (outline : Outline) (engine : Engine) : String :=
  String.intercalate "\n" (outline.lines engine)

end Outline

end DeclarativeForm
