import DeclarativeForm.Engine.Edit

/-!
Adding items to repeatables and removing them. Both keep the number of items within the bounds of
the repeatable; a removal moves everything kept for later items one item down.
-/

set_option autoImplicit false

namespace DeclarativeForm

/-- A target with its field moved as `reindexKey` says; nothing if its item was removed. -/
def FetchTarget.reindex (target : FetchTarget) (repeatable : String) (removed : Nat) :
    Option FetchTarget :=
  match target with
  | .field path => (reindexKey path repeatable removed).map .field
  | .flowStep path step => (reindexKey path repeatable removed).map fun path => .flowStep path step

def Ticket.reindex (ticket : Ticket) (repeatable : String) (removed : Nat) : Option Ticket :=
  (ticket.target.reindex repeatable removed).map fun target => { ticket with target }

namespace Engine

def addItem (engine : Engine) (text : String) : Engine × Except FormError Nat :=
  match engine.locate text with
  | .error rejection => (engine, .error rejection)
  | .ok (path, located) =>
    match located.node with
    | .repeatable head template =>
      let count := itemCount path engine.values
      match head.maxItemCount.filter fun most => most ≤ count with
      | some most =>
        ({ engine with
            store := engine.store.setError path.text (head.maxItemsMessage most) },
          .error (.itemLimit path.text most))
      | none =>
        let items := match engine.store.value? path with
          | some (.array items) => items
          | _ => []
        let store := engine.store.setValue path (.array (items ++ [initialValues template]))
        (({ engine with store }.refreshDerived (some path.text)).emitChange, .ok count)
    | _ => (engine, .error (.notRepeatable path.text))

def removeItem (engine : Engine) (text : String) (index : Nat) :
    Engine × Except FormError Unit :=
  match engine.locate text with
  | .error rejection => (engine, .error rejection)
  | .ok (path, located) =>
    match located.node with
    | .repeatable head _ =>
      let count := itemCount path engine.values
      if count ≤ index then (engine, .error (.indexOutOfRange path.text index))
      else
        match head.minItems.filter fun least => count ≤ least with
        | some least =>
          ({ engine with
              store := engine.store.setError path.text (head.minItemsMessage least) },
            .error (.itemMinimum path.text least))
        | none =>
          let store := ((engine.store.removeValue (path.item index)).reindexRemoval path.text
            index).clearError path.text
          let pending := engine.pending.filterMap fun ticket => ticket.reindex path.text index
          (({ engine with store, pending }.refreshDerived (some path.text)).emitChange, .ok ())
    | _ => (engine, .error (.notRepeatable path.text))

end Engine

end DeclarativeForm
