import DeclarativeForm.Engine.Edit

/-!
Fetching options. The host takes the queued tickets, performs them and completes them with their
results, in whatever order; a result that comes too late is dropped.
-/

set_option autoImplicit false

namespace DeclarativeForm.Engine

/-- The options a field offers: those fetched for it if it has a source, otherwise its own. -/
def fieldOptions (engine : Engine) (text : String) : List Choice :=
  match engine.locate text with
  | .ok (path, ⟨.leaf leaf, _⟩) =>
    if leaf.optionsSource.isNone then leaf.options
    else
      match engine.store.slot? path.text with
      | some slot => slot.options
      | none => []
  | _ => []

def isLoading (engine : Engine) (text : String) : Bool :=
  match FieldPath.parse text with
  | .error _ => false
  | .ok path =>
    match engine.store.slot? path.text with
    | some slot => slot.loading
    | none => false

/-- Asks for the options of a field anew, even if its arguments are the same. -/
def refreshOptions (engine : Engine) (text : String) : Engine × Except FormError Unit :=
  match engine.locate text with
  | .error rejection => (engine, .error rejection)
  | .ok (path, _) =>
    let noted := engine.note (optionBindingNotices engine.form.fields engine.values)
    let bindings := optionBindings engine.form.fields engine.values
    match bindings.find? fun binding => binding.key == path.text with
    | none => (noted, .ok ())
    | some binding =>
      ((noted.requestOptions path.text binding.source binding.args true).1, .ok ())

def hasPending (engine : Engine) : Bool := !engine.pending.isEmpty

def takePending (engine : Engine) : Engine × List Ticket :=
  ({ engine with pending := [] }, engine.pending)

def fetch (engine : Engine) (ticket : Ticket) : Engine × FetchResult :=
  (engine.note (engine.functions.invokeNotices ticket.function),
    engine.functions.fetch engine.options.fetchLimit ticket)

/-- Takes the result of a ticket; tells whether it was still wanted. -/
def completeFetch (engine : Engine) (ticket : Ticket) (result : FetchResult) : Engine × Bool :=
  match engine.store.complete ticket result with
  | some store =>
    (({ engine with store }.note (ticket.completionNotices result)).emit
      (.optionsLoaded ticket.target), true)
  | none => (engine, false)

/-- Performs and completes every queued ticket. Completing queues no further ones. -/
def settle (engine : Engine) : Engine :=
  let (engine, tickets) := engine.takePending
  let (engine, results) := tickets.foldl (fun (engine, results) ticket =>
    let (engine, result) := engine.fetch ticket
    (engine, results ++ [(ticket, result)])) (engine, ([] : List (Ticket × FetchResult)))
  results.foldl (fun engine (ticket, result) => (engine.completeFetch ticket result).1) engine

end DeclarativeForm.Engine
