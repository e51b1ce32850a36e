import DeclarativeForm.Schema.Node

/-!
A form: its title, its field tree, the steps of a wizard, and its wishes for submission and
validation.
-/

set_option autoImplicit false

namespace DeclarativeForm

inductive FormKind
  | standard
  | wizard
deriving DecidableEq, Repr

structure WizardStep where
  id : String
  title : String
  description : Option String
  fields : List String
deriving DecidableEq, Repr

/-- What the status line says around a submission. -/
structure SubmitMessages where
  success : Option String
  failure : Option String
  loading : Option String
deriving DecidableEq, Repr

inductive Trigger
  | blur
  | change
  | submit
deriving DecidableEq, Repr

structure ValidationTiming where
  showErrorsOn : Trigger
  validateOnChange : Bool
deriving DecidableEq, Repr

/-- Validating on change wins over the named moment. -/
def ValidationTiming.trigger (timing : ValidationTiming) : Trigger :=
  if timing.validateOnChange then .change else timing.showErrorsOn

structure Form where
  title : String
  description : Option String
  kind : FormKind
  steps : List WizardStep
  fields : List Node
  onSubmit : Option SubmitMessages
  submitButtonLabel : Option String
  validation : Option ValidationTiming
deriving Repr

/-- A wizard without steps is shown as a standard form. -/
def Form.isWizard (form : Form) : Bool := form.kind = .wizard && !form.steps.isEmpty

end DeclarativeForm
