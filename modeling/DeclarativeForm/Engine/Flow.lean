import DeclarativeForm.Engine.Edit

/-!
Choosing values for the steps of flows.
-/

set_option autoImplicit false

namespace DeclarativeForm.Engine

def flowState? (engine : Engine) (text : String) : Option FlowState :=
  match FieldPath.parse text with
  | .ok path => engine.store.flow? path.text
  | .error _ => none

/-- The flow a text addresses, with the key of its state. -/
def locateFlow? (engine : Engine) (text : String) : Option (String × Flow) :=
  match engine.locate text with
  | .ok (path, ⟨.flow flow, _⟩) => some (path.text, flow)
  | _ => none

def isFlowStepEnabled (engine : Engine) (text id : String) : Bool :=
  match engine.locateFlow? text with
  | none => false
  | some (key, flow) =>
    match engine.store.flow? key, flow.stepIndex id with
    | some state, some index => flow.isStepEnabled state index
    | _, _ => false

def isFlowComplete (engine : Engine) (text : String) : Bool :=
  match engine.locateFlow? text with
  | none => false
  | some (key, flow) =>
    match engine.store.flow? key with
    | some state => flow.isComplete state
    | none => false

/-- Writes what a choice means for the values and the errors: the flow gets the value of its output
step or loses its value, the step is checked, and the errors of emptied steps go. -/
def applyFlowChange (store : Store) (path : FieldPath) (flow : Flow) (id value : String)
    (change : FlowChange) : Store :=
  let key := path.text
  let written := match change.output with
    | some output => store.setValue path (.string output)
    | none => store.removeValue path
  let failure := (flow.steps.find? fun step => step.id == id).bind
    fun step => step.requiredError? value
  let checked := match failure with
    | some message => written.setError (key ++ "." ++ id) message
    | none => written.clearError (key ++ "." ++ id)
  change.reset.foldl (fun store step => store.clearError (key ++ "." ++ step)) checked

def selectFlowStep (engine : Engine) (text id value : String) :
    Engine × Except FormError FlowSelection :=
  match engine.locate text with
  | .error rejection => (engine, .error rejection)
  | .ok (path, located) =>
    match located.node with
    | .flow flow =>
      let key := path.text
      let engine := engine.syncFlow ⟨path, flow, located.context⟩
      match engine.store.flow? key with
      | none => (engine, .error (.unknownField key))
      | some state =>
        let (selection, state, next) :=
          flow.select key state id value (located.context.scope engine.values) engine.next
        let engine := { engine with store := engine.store.putFlow key state, next }
        match selection with
        | .applied change =>
          let engine := { engine with
            store := applyFlowChange engine.store path flow id value change
            pending := engine.pending ++ change.tickets }
          ((engine.refreshDerived (some key)).emitChange, .ok selection)
        | _ => (engine, .ok selection)
    | _ => (engine, .error (.unknownField path.text))

end DeclarativeForm.Engine
