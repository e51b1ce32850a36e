import DeclarativeForm.Schema.Choice
import DeclarativeForm.Schema.Condition
import DeclarativeForm.Schema.Rule

/-!
The field tree. A leaf holds a value; a section groups nodes without a name of its own in paths; a
repeatable holds a list of items, each with the nodes of its template; a flow is filled in by
choosing one step after the other.
-/

set_option autoImplicit false

namespace DeclarativeForm

/-- What kind of input a leaf is. Kinds that are not known are kept. -/
inductive LeafKind
  | text
  | email
  | password
  | number
  | date
  | tel
  | textarea
  | select
  | multiSelect
  | autoComplete
  | radio
  | checkbox
  | switch
  | color
  | file
  | unsupported (name : String)
deriving DecidableEq, Repr

namespace LeafKind

def name : LeafKind → String
  | text => "text"
  | email => "email"
  | password => "password"
  | number => "number"
  | date => "date"
  | tel => "tel"
  | textarea => "textarea"
  | select => "select"
  | multiSelect => "multi-select"
  | autoComplete => "auto-complete"
  | radio => "radio"
  | checkbox => "checkbox"
  | switch => "switch"
  | color => "color"
  | file => "file"
  | unsupported name => name

def known : List LeafKind :=
  [text, email, password, number, date, tel, textarea, select, multiSelect, autoComplete, radio,
    checkbox, switch, color, file]

def ofName (name : String) : LeafKind :=
  match known.find? fun kind => kind.name == name with
  | some kind => kind
  | none => unsupported name

def isUnsupported : LeafKind → Bool
  | unsupported _ => true
  | _ => false

def isMultiValued (kind : LeafKind) : Bool := kind = multiSelect || kind = checkbox

def isToggle (kind : LeafKind) : Bool := kind = switch

def isNumeric (kind : LeafKind) : Bool := kind = number

def isChoice (kind : LeafKind) : Bool :=
  kind = select || kind = multiSelect || kind = autoComplete || kind = radio || kind = checkbox

end LeafKind

structure Leaf where
  name : String
  kind : LeafKind
  label : Option String
  placeholder : Option String
  helpText : Option String
  tooltip : Option String
  defaultValue : Option Json
  validation : Option RuleSet
  showWhen : Option ConditionGroup
  options : List Choice
  optionsSource : Option OptionsSource
  crossValidation : List CrossRule
  showPasswordStrength : Bool
  characterCounter : Bool
deriving Repr

def Leaf.displayLabel (leaf : Leaf) : String := leaf.label.getD leaf.name

structure Section where
  name : String
  title : Option String
  label : Option String
  description : Option String
  collapsible : Bool
  defaultCollapsed : Bool
  columns : Option Nat
  showWhen : Option ConditionGroup
deriving Repr

def Section.displayTitle (head : Section) : String :=
  (head.title.or head.label).getD head.name

structure Repeatable where
  name : String
  label : Option String
  sectionTitle : Option String
  description : Option String
  addButtonLabel : Option String
  removeButtonLabel : Option String
  maxItems : Option Nat
  defaultValue : Option Json
  validation : Option RuleSet
  showWhen : Option ConditionGroup
deriving Repr

namespace Repeatable

/-- The rules named `min` and `max` bound the number of items. -/
def rule (repeatable : Repeatable) (select : RuleSet → Option Rule) : Option Rule :=
  repeatable.validation.bind select

def minItems (repeatable : Repeatable) : Option Nat :=
  (repeatable.rule RuleSet.min).bind Rule.thresholdCount

/-- The largest number of items: the rule's, or else the field's own. -/
def maxItemCount (repeatable : Repeatable) : Option Nat :=
  ((repeatable.rule RuleSet.max).bind Rule.thresholdCount).or repeatable.maxItems

/-- The section title, the label or the name. -/
def displayTitle (repeatable : Repeatable) : String :=
  (repeatable.sectionTitle.or repeatable.label).getD repeatable.name

end Repeatable

structure FlowStep where
  id : String
  label : String
  placeholder : Option String
  helpText : Option String
  optionsSource : OptionsSource
  validation : Option RuleSet
deriving Repr

structure Flow where
  name : String
  label : Option String
  helpText : Option String
  validation : Option RuleSet
  showWhen : Option ConditionGroup
  steps : List FlowStep
  outputStepId : String
  showAllSteps : Bool
deriving Repr

def Flow.stepIndex (flow : Flow) (id : String) : Option Nat :=
  flow.steps.findIdx? fun step => step.id == id

inductive Node
  | leaf (field : Leaf)
  | group (head : Section) (fields : List Node)
  | repeatable (head : Repeatable) (template : List Node)
  | flow (field : Flow)
deriving Repr

namespace Node

def name : Node → String
  | leaf field => field.name
  | group head _ => head.name
  | repeatable head _ => head.name
  | flow field => field.name

def showWhen : Node → Option ConditionGroup
  | leaf field => field.showWhen
  | group head _ => head.showWhen
  | repeatable head _ => head.showWhen
  | flow field => field.showWhen

def typeName : Node → String
  | leaf field => field.kind.name
  | group _ _ => "section"
  | repeatable _ _ => "repeatable"
  | flow _ => "dynamic-flow"

def isGroup : Node → Bool
  | group _ _ => true
  | _ => false

end Node

end DeclarativeForm
