import DeclarativeForm.Proofs.Fetch.Session
import DeclarativeForm.Proofs.Fetch.Steady

/-!
Submissions. What a submission comes to is one of three things: the form has errors and the host is
not asked, the host refuses the values, or it takes them and the form is reset. The mark that a form
is being submitted is only set while the host looks at the values, so it is off in every session.
The reset starts behind the notices of the validation; since no work looks at earlier notices, it
comes to what a reset of the form comes to at any time.
-/

set_option autoImplicit false

namespace DeclarativeForm

namespace Engine

/-! ### Earlier notices -/

def preceded (front : List Notice) (engine : Engine) : Engine :=
  { engine with notices := front ++ engine.notices }

section Preceded

variable (front : List Notice) (touched : Option String)

private theorem preceded_note (engine : Engine) (notices : List Notice) :
    (engine.preceded front).note notices = (engine.note notices).preceded front := by
  simp only [preceded, note, List.append_assoc]

private theorem preceded_syncFlow (engine : Engine) (place : FlowPlace) :
    (engine.preceded front).syncFlow place = (engine.syncFlow place).preceded front := by
  unfold syncFlow preceded
  dsimp only
  split <;> rfl

private theorem preceded_syncFlows (engine : Engine) :
    (engine.preceded front).syncFlows = engine.syncFlows.preceded front := by
  have fold (places : List FlowPlace) (engine : Engine) :
      places.foldl syncFlow (engine.preceded front) =
        (places.foldl syncFlow engine).preceded front := by
    induction places generalizing engine with
    | nil => rfl
    | cons place rest ih => rw [List.foldl_cons, preceded_syncFlow, ih, List.foldl_cons]
  exact fold _ engine

private theorem preceded_foldl_requestBinding (bindings : List OptionBinding)
    (state : Engine × List Clearing) :
    bindings.foldl (requestBinding touched) (state.1.preceded front, state.2) =
      ((bindings.foldl (requestBinding touched) state).1.preceded front,
        (bindings.foldl (requestBinding touched) state).2) := by
  induction bindings generalizing state with
  | nil => rfl
  | cons binding rest ih =>
      have here : requestBinding touched (state.1.preceded front, state.2) binding =
          ((requestBinding touched state binding).1.preceded front,
            (requestBinding touched state binding).2) := by
        refine Prod.ext ?_ ?_
        · rw [requestBinding_engine, requestBinding_engine]
          rfl
        · unfold requestBinding requestOptions preceded
          dsimp only
          split <;> rfl
      rw [List.foldl_cons, List.foldl_cons, here]
      exact ih _

private theorem preceded_syncPass (engine : Engine) (bindings : List OptionBinding) :
    syncPass touched (engine.preceded front) bindings =
      ((syncPass touched engine bindings).1.preceded front,
        (syncPass touched engine bindings).2) := by
  have requested := preceded_foldl_requestBinding front touched bindings (engine, [])
  unfold syncPass
  dsimp only at requested ⊢
  rw [requested]
  rfl

private theorem preceded_syncPasses (fuel passes : Nat) (engine : Engine) :
    syncPasses touched fuel passes (engine.preceded front) =
      (syncPasses touched fuel passes engine).preceded front := by
  induction fuel generalizing passes engine with
  | zero => rfl
  | succ fuel ih =>
      have form : (engine.preceded front).form = engine.form := rfl
      have values : (engine.preceded front).values = engine.values := rfl
      simp only [syncPasses, form, values, preceded_note, preceded_syncPass]
      split
      · rfl
      · split
        · rfl
        · exact ih _ _

/-- Bringing fields up to date does not look at earlier notices. -/
theorem preceded_refreshDerived (engine : Engine) :
    (engine.preceded front).refreshDerived touched =
      (engine.refreshDerived touched).preceded front := by
  have bound (engine : Engine) : (engine.preceded front).passBound = engine.passBound := rfl
  rw [refreshDerived, refreshDerived, preceded_syncFlows, syncOptions, syncOptions, bound,
    preceded_syncPasses]

end Preceded

private theorem emitChange_preceded {one two refreshed : Engine} {front told : List Notice}
    (isOne : one = (refreshed.preceded front).emitChange)
    (isTwo : two = (refreshed.preceded (front ++ told)).emitChange) :
    ∃ later, one.notices = front ++ later ∧
      two = { one with notices := front ++ told ++ later } := by
  rw [isOne, isTwo]
  exact ⟨refreshed.notices, rfl, rfl⟩

/-- A reset comes to the same whatever was noticed, found and said before it. -/
theorem reset_eq_of_emptied {engine other : Engine} {told : List Notice}
    (same : other.emptied = { engine.emptied with notices := engine.notices ++ told }) :
    ∃ later, engine.reset.notices = engine.notices ++ later ∧
      other.reset = { engine.reset with notices := engine.notices ++ told ++ later } := by
  let blank : Engine := { engine.emptied with notices := [] }
  have behind (front : List Notice) : { engine.emptied with notices := front } =
      blank.preceded front := by
    simp only [blank, preceded, List.append_nil]
  have own : engine.emptied = blank.preceded engine.notices := behind engine.notices
  have isOne : engine.reset =
      ((blank.refreshDerived none).preceded engine.notices).emitChange := by
    rw [reset_eq, own, preceded_refreshDerived]
  have isTwo : other.reset =
      ((blank.refreshDerived none).preceded (engine.notices ++ told)).emitChange := by
    rw [reset_eq, same, behind, preceded_refreshDerived]
  exact emitChange_preceded isOne isTwo

/-! ### The mark of a submission -/

def IsIdle (engine : Engine) : Prop := engine.store.submitting = false

theorem IsIdle.steady {before after : Engine} (idle : before.IsIdle)
    (steady : before.Steady after) : after.IsIdle :=
  steady.submitting.trans idle

theorem IsIdle.concluded {engine : Engine} (idle : engine.IsIdle) (status : Status)
    (events : List Event) (notices : List Notice) :
    IsIdle { engine with status, events, notices } := idle

theorem IsIdle.move {engine : Engine} (idle : engine.IsIdle) (navigator : Navigator)
    (transition : Transition) : (engine.move navigator transition).IsIdle := by
  cases transition <;> exact idle

theorem IsIdle.nextStep {engine : Engine} (idle : engine.IsIdle) : engine.nextStep.1.IsIdle := by
  have validated : engine.validateStep.1.IsIdle := idle
  unfold Engine.nextStep
  split
  · exact idle
  · dsimp only
    split
    · exact validated
    · exact validated.move _ _

theorem reset_isIdle (engine : Engine) : engine.reset.IsIdle := by
  have blank : engine.emptied.IsIdle := rfl
  rw [reset_eq]
  exact blank.steady (refreshed_steady _ _)

/-! ### Outcomes -/

/-- What a submission comes to. -/
inductive Submits (engine : Engine) (handler : Json → Except String Unit) : Submission → Prop
  /-- Errors are found, and the host is not asked. -/
  | invalid {found : ErrorMap} (isFound : engine.validateAll.store.errors = found)
      (some : found ≠ []) :
      Submits engine handler
        { engine := { engine with
            store := { engine.store with errors := found }
            status := .issues found.length
            notices := engine.validateAll.notices }
          outcome := .invalid found.length
          sent := [] }
  /-- The host refuses the values. -/
  | failed {cause message : String} (clean : engine.validateAll.store.errors = [])
      (refused : handler engine.values = .error cause)
      (isMessage : message = engine.submitMessages.failure.getD engine.options.failureMessage) :
      Submits engine handler
        { engine := { engine with
            store := { engine.store with errors := [] }
            status := .failed message
            events := engine.events ++ [.submitFailed message]
            notices := engine.validateAll.notices ++ [.submissionFailed cause] }
          outcome := .failed message
          sent := [engine.values] }
  /-- The host takes the values, and the form is reset. -/
  | submitted {message : String} {later : List Notice}
      (clean : engine.validateAll.store.errors = []) (taken : handler engine.values = .ok ())
      (isMessage : message = engine.submitMessages.success.getD engine.options.successMessage)
      (told : engine.reset.notices = engine.notices ++ later) :
      Submits engine handler
        { engine := { engine.reset with
            status := .submitted message
            events := engine.reset.events ++ [.submitted]
            notices := engine.validateAll.notices ++ later }
          outcome := .submitted message
          sent := [engine.values] }

private theorem emit_submitted {fresh after : Engine} {notices : List Notice}
    (same : after = { fresh with notices }) (status : Status) :
    { after with status }.emit .submitted =
      { fresh with status, events := fresh.events ++ [.submitted], notices } := by
  rw [same]
  rfl

section Answers

variable {engine : Engine} {handler : Json → Except String Unit}

private theorem submits_refused (idle : engine.IsIdle)
    (clean : engine.validateAll.store.errors = []) {cause : String}
    (refused : handler engine.values = .error cause) :
    engine.Submits handler
      { engine := (engine.validateAll.startSubmitting.finishSubmitting (.error cause)).1
        outcome := (engine.validateAll.startSubmitting.finishSubmitting (.error cause)).2
        sent := [engine.values] } := by
  have store : { engine.validateAll.store with submitting := false } =
      { engine.store with errors := [] } := by
    rw [← clean]
    exact congrArg (fun mark => { engine.validateAll.store with submitting := mark }) idle.symm
  have failed := Submits.failed clean refused rfl
  rw [← store] at failed
  exact failed

private theorem submits_taken (clean : engine.validateAll.store.errors = [])
    (taken : handler engine.values = .ok ()) :
    engine.Submits handler
      { engine := (engine.validateAll.startSubmitting.finishSubmitting (.ok ())).1
        outcome := (engine.validateAll.startSubmitting.finishSubmitting (.ok ())).2
        sent := [engine.values] } := by
  let answered : Engine :=
    { engine.validateAll.startSubmitting with
      store := { engine.validateAll.startSubmitting.store with submitting := false } }
  have emptied : answered.emptied = { engine.emptied with
      notices := engine.notices ++ engine.snapshot.validateNodesNotices engine.form.fields } := rfl
  obtain ⟨later, told, same⟩ := reset_eq_of_emptied emptied
  have submitted := Submits.submitted clean taken rfl told
  unfold finishSubmitting conclude
  dsimp only
  change engine.Submits handler
    ⟨{ answered.reset with status := _ }.emit .submitted, _, [engine.values]⟩
  rw [emit_submitted same]
  exact submitted

theorem submit_submits (idle : engine.IsIdle) (handler : Json → Except String Unit) :
    engine.Submits handler (engine.submit handler) := by
  have values : engine.validateAll.startSubmitting.values = engine.values := rfl
  unfold submit
  dsimp only
  by_cases clean : engine.validateAll.store.errors = []
  · have none : ¬0 < engine.validateAll.store.errors.length := by
      rw [clean]
      exact Nat.lt_irrefl 0
    rw [if_neg none, values]
    cases answer : handler engine.values with
    | error cause => exact submits_refused idle clean answer
    | ok _ => exact submits_taken clean answer
  · rw [if_pos (List.length_pos_iff.mpr clean)]
    exact .invalid rfl clean

end Answers

theorem Submits.isIdle {engine : Engine} {handler : Json → Except String Unit}
    {submission : Submission} (idle : engine.IsIdle) (submits : engine.Submits handler submission) :
    submission.engine.IsIdle := by
  cases submits with
  | invalid isFound some => exact idle
  | failed clean refused isMessage => exact idle
  | submitted clean taken isMessage told =>
      exact engine.reset_isIdle.concluded _ _ _

theorem Submits.sent_eq {engine : Engine} {handler : Json → Except String Unit}
    {submission : Submission} (submits : engine.Submits handler submission) :
    submission.sent =
      if engine.validateAll.store.errors = [] then [engine.values] else [] := by
  cases submits with
  | invalid isFound some => rw [isFound, if_neg some]
  | failed clean refused isMessage => rw [if_pos clean]
  | submitted clean taken isMessage told => rw [if_pos clean]

/-- Of the host nothing matters but its answer to the values of a form without errors. -/
theorem submit_congr {engine : Engine} {handler other : Json → Except String Unit}
    (same : engine.validateAll.store.errors = [] → other engine.values = handler engine.values) :
    engine.submit other = engine.submit handler := by
  have values : engine.validateAll.startSubmitting.values = engine.values := rfl
  unfold submit
  dsimp only
  rw [values]
  by_cases clean : engine.validateAll.store.errors = []
  · rw [same clean]
  · have found := List.length_pos_iff.mpr clean
    rw [if_pos found, if_pos found]

theorem IsIdle.perform {engine : Engine} (idle : engine.IsIdle) (operation : HostOperation) :
    (engine.perform operation).1.IsIdle := by
  cases operation with
  | nextStep => exact idle.nextStep
  | previousStep => exact idle.move _ _
  | reset => exact engine.reset_isIdle
  | submit handler => exact (submit_submits idle handler).isIdle idle
  | _ => exact idle.steady (engine.perform_steady id)

end Engine

namespace Session

theorem Reachable.isIdle {mounting : Engine.Mounting} {session : Session}
    (reachable : Reachable mounting session) : session.engine.IsIdle := by
  induction reachable with
  | mounted =>
      have blank : (Engine.unfolded mounting).IsIdle := rfl
      exact blank.steady (Engine.refreshDerived_steady _ none)
  | @stepped session step _ _ ih =>
      cases step with
      | operate operation => exact ih.perform operation
      | take => exact ih
      | complete ticket result => exact ih.steady (Engine.completeFetch_steady _ ticket result)

/-- The host is asked once, about the values as they are, if the form has no errors, and otherwise
not at all. If there are errors they are recorded and nothing else is touched; if the host refuses
the values there are none, and nothing else is touched; if it takes them the form is as after a
reset, but for its status. -/
theorem Reachable.submission_atomic {mounting : Engine.Mounting} {session : Session}
    (reachable : Reachable mounting session) (handler : Json → Except String Unit) :
    session.engine.Submits handler (session.engine.submit handler) ∧
      (session.engine.submit handler).sent =
        (if session.engine.validateAll.store.errors = [] then [session.engine.values] else []) ∧
      (session.engine.submit handler).engine.store.submitting = false ∧
      ∀ other : Json → Except String Unit,
        (session.engine.validateAll.store.errors = [] →
          other session.engine.values = handler session.engine.values) →
        session.engine.submit other = session.engine.submit handler := by
  have idle := reachable.isIdle
  have submits := Engine.submit_submits idle handler
  exact ⟨submits, submits.sent_eq, submits.isIdle idle, fun _ => Engine.submit_congr⟩

def chosenCountry : List HostStep := [.operate (.setValue "country" (.string "Italy"))]

/-- A host that takes nothing is asked once, and the form goes on as it was. -/
theorem chosenCountry_refused :
    ((mount countryAndCity).run chosenCountry).engine.Submits (fun _ => .error "offline")
        (((mount countryAndCity).run chosenCountry).engine.submit fun _ => .error "offline") ∧
      (((mount countryAndCity).run chosenCountry).engine.submit fun _ => .error "offline").sent =
        [((mount countryAndCity).run chosenCountry).engine.values] := by
  have reachable : Reachable countryAndCity ((mount countryAndCity).run chosenCountry) :=
    .run .mounted (by decide +kernel)
  have clean : ((mount countryAndCity).run chosenCountry).engine.validateAll.store.errors = [] := by
    decide +kernel
  generalize (mount countryAndCity).run chosenCountry = session at *
  obtain ⟨submits, sent, _⟩ := reachable.submission_atomic fun _ => .error "offline"
  rw [if_pos clean] at sent
  exact ⟨submits, sent⟩

end Session

end DeclarativeForm
