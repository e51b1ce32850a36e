import DeclarativeForm.Engine.Edit

/-!
Moving through the steps of a wizard. A step is left forwards only when its fields have no errors.
The nodes that are shown at a step and those that are validated to leave it are picked each on their
own, and turn out to be the same.
-/

set_option autoImplicit false

namespace DeclarativeForm.Engine

def currentStep? (engine : Engine) : Option WizardStep :=
  if engine.form.isWizard then engine.form.steps[engine.navigator.current]? else none

/-- The top-level nodes of the current step; all of them outside wizards. -/
def currentNodes (engine : Engine) : List Node :=
  match engine.currentStep? with
  | some step => resolveStep engine.form.fields step.fields
  | none => engine.form.fields

def currentNodesNotices (engine : Engine) : List Notice :=
  match engine.currentStep? with
  | some step => resolveStepNotices engine.form.fields step.fields
  | none => []

/-- The top-level nodes that validating the current step looks at. Which step is current is asked
first, and only then whether the form has steps at all. -/
def validatedNodes (engine : Engine) : List Node :=
  match engine.form.steps[engine.navigator.current]? with
  | some step =>
    if engine.form.isWizard then resolveStep engine.form.fields step.fields
    else engine.form.fields
  | none => engine.form.fields

def validatedNodesNotices (engine : Engine) : List Notice :=
  match engine.form.steps[engine.navigator.current]? with
  | some step =>
    if engine.form.isWizard then resolveStepNotices engine.form.fields step.fields else []
  | none => []

/-- What is shown at a step is what leaving the step validates. -/
theorem validatedNodes_eq (engine : Engine) : engine.validatedNodes = engine.currentNodes := by
  unfold validatedNodes currentNodes currentStep?
  cases engine.form.isWizard with
  | true => rfl
  | false => cases engine.form.steps[engine.navigator.current]? <;> rfl

theorem validatedNodesNotices_eq (engine : Engine) :
    engine.validatedNodesNotices = engine.currentNodesNotices := by
  unfold validatedNodesNotices currentNodesNotices currentStep?
  cases engine.form.isWizard with
  | true => rfl
  | false => cases engine.form.steps[engine.navigator.current]? <;> rfl

/-- Validates the fields of the current step, replaces their errors and counts them. -/
def validateStep (engine : Engine) : Engine × Nat :=
  let nodes := engine.validatedNodes
  let errors := engine.snapshot.validateNodes nodes
  ({ engine with
      store := engine.store.mergeErrorsUnder (ownedKeys nodes) errors
      notices := engine.notices ++ engine.validatedNodesNotices
        ++ engine.snapshot.validateNodesNotices nodes },
    errors.length)

theorem validateStep_eq (engine : Engine) :
    engine.validateStep =
      ({ engine with
          store := engine.store.mergeErrorsUnder (ownedKeys engine.currentNodes)
            (engine.snapshot.validateNodes engine.currentNodes)
          notices := engine.notices ++ engine.currentNodesNotices
            ++ engine.snapshot.validateNodesNotices engine.currentNodes },
        (engine.snapshot.validateNodes engine.currentNodes).length) := by
  rw [validateStep, validatedNodes_eq, validatedNodesNotices_eq]

def move (engine : Engine) (navigator : Navigator) (transition : Transition) : Engine :=
  match transition with
  | .moved _ target =>
    { engine with navigator, store := engine.store.closeDropdowns }.emit (.stepChanged target)
  | _ => { engine with navigator }

def nextStep (engine : Engine) : Engine × Transition :=
  if engine.navigator.isLast then (engine, .boundary)
  else
    let (engine, errors) := engine.validateStep
    if 0 < errors then (engine, .blocked errors)
    else
      let (navigator, transition) := engine.navigator.advance
      (engine.move navigator transition, transition)

def previousStep (engine : Engine) : Engine × Transition :=
  let (navigator, transition) := engine.navigator.retreat
  (engine.move navigator transition, transition)

end DeclarativeForm.Engine
