import DeclarativeForm.Engine.Sync

/-!
Writing values and validating fields.
-/

set_option autoImplicit false

namespace DeclarativeForm.Engine

/-- The keys in the error map that a node owns: its path, and the paths of the steps of a flow. -/
def keysOf (key : String) : Node → List String
  | .flow flow => key :: flow.steps.map fun step => key ++ "." ++ step.id
  | .leaf _ => [key]
  | .group _ _ => [key]
  | .repeatable _ _ => [key]

/-- Records the errors of some keys and clears those of the keys that have none. -/
def recordErrors (store : Store) (keys : List String) (errors : ErrorMap) : Store :=
  keys.foldl (fun store key =>
    match errors.find? key with
    | some message => store.setError key message
    | none => store.clearError key) store

/-- Validates a node that was located and records or clears its errors. -/
def recordLocated (engine : Engine) (key : String) (located : Located) : Engine :=
  let errors := engine.snapshot.validateLocated located
  { engine with
    store := recordErrors engine.store (keysOf key located.node) errors
    notices := engine.notices ++ engine.snapshot.validateLocatedNotices located }

/-- Writes a value. Items only come into existence through `addItem`. -/
def setValue (engine : Engine) (text : String) (value : Json) : Engine × Except FormError Unit :=
  match engine.locate text with
  | .error rejection => (engine, .error rejection)
  | .ok (path, located) =>
    match missingItem? path engine.values with
    | some (repeatable, index) =>
      (engine, .error (.indexOutOfRange repeatable.text index))
    | none =>
      let written := { engine with store := engine.store.setValue path value }
      let validated :=
        if written.trigger = .change then written.recordLocated path.text located else written
      ((validated.refreshDerived (some path.text)).emitChange, .ok ())

/-- Validates one node now, and gives the error recorded at its path. -/
def validateField (engine : Engine) (text : String) :
    Engine × Except FormError (Option String) :=
  match engine.locate text with
  | .error rejection => (engine, .error rejection)
  | .ok (path, located) =>
    let engine := engine.recordLocated path.text located
    (engine, .ok (engine.error? path.text))

/-- A field has lost the focus: it is validated, unless errors only show on submission. -/
def blur (engine : Engine) (text : String) : Engine × Except FormError (Option String) :=
  if engine.trigger = .submit then
    match parsePath text with
    | .error rejection => (engine, .error rejection)
    | .ok path => (engine, .ok (engine.error? path.text))
  else engine.validateField text

def validateAll (engine : Engine) : Engine :=
  { engine with
    store := engine.store.replaceErrors (engine.snapshot.validateAll engine.form.fields)
    notices := engine.notices ++ engine.snapshot.validateNodesNotices engine.form.fields }

def isVisible (engine : Engine) (text : String) : Bool :=
  match engine.locate text with
  | .error _ => false
  | .ok (_, located) =>
    isShown located.node.showWhen (located.context.scope engine.values)

def isVisibleNotices (engine : Engine) (text : String) : List Notice :=
  match engine.locate text with
  | .error _ => []
  | .ok (_, located) =>
    shownNotices located.node.showWhen (located.context.scope engine.values)

def toggleDropdown (engine : Engine) (key : String) : Engine :=
  { engine with store := engine.store.toggleDropdown key }

def closeDropdowns (engine : Engine) : Engine :=
  { engine with store := engine.store.closeDropdowns }

def togglePassword (engine : Engine) (key : String) : Engine :=
  { engine with store := engine.store.togglePassword key }

end DeclarativeForm.Engine
