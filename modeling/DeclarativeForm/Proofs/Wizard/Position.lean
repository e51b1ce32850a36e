import DeclarativeForm.Proofs.Fetch.Steady
import DeclarativeForm.Proofs.Sync.Rest

/-!
The position in a wizard. Nothing but the moves between steps, a reset and a submission that ends in
one touches the position, and none of these changes the number of steps. So a wizard keeps the
number of steps it was mounted with.
-/

set_option autoImplicit false

namespace DeclarativeForm

namespace Engine

/-! ### Moves -/

private theorem move_navigator (engine : Engine) (navigator : Navigator)
    (transition : Transition) : (engine.move navigator transition).navigator = navigator := by
  cases transition <;> rfl

private theorem nextStep_total (engine : Engine) :
    engine.nextStep.1.navigator.total = engine.navigator.total := by
  unfold nextStep
  split
  · rfl
  · dsimp only
    split
    · rfl
    · rw [move_navigator]
      unfold Navigator.advance
      split <;> rfl

private theorem previousStep_total (engine : Engine) :
    engine.previousStep.1.navigator.total = engine.navigator.total := by
  unfold previousStep
  dsimp only
  rw [move_navigator]
  unfold Navigator.retreat
  split <;> rfl

/-! ### Resets -/

private theorem reset_total (engine : Engine) :
    engine.reset.navigator.total = engine.navigator.total := by
  rw [reset_eq, (refreshed_steady _ _).navigator]
  rfl

private theorem answered_navigator (engine : Engine) (status : Status) (event : Event) :
    ({ engine with status }.emit event).navigator = engine.navigator := rfl

private theorem conclude_total (engine : Engine) (answer : Except String Unit) :
    (engine.conclude answer).1.navigator.total = engine.navigator.total := by
  cases answer with
  | error cause => rfl
  | ok _ =>
      have answered := answered_navigator engine.reset
        (.submitted (engine.submitMessages.success.getD engine.options.successMessage)) .submitted
      exact (congrArg Navigator.total answered).trans engine.reset_total

private theorem submit_total (engine : Engine) (handler : Json → Except String Unit) :
    (engine.submit handler).engine.navigator.total = engine.navigator.total := by
  unfold submit
  dsimp only
  split
  · rfl
  · rw [finishSubmitting, conclude_total]
    rfl

theorem perform_total (engine : Engine) (operation : HostOperation) :
    (engine.perform operation).1.navigator.total = engine.navigator.total := by
  cases operation with
  | nextStep => exact engine.nextStep_total
  | previousStep => exact engine.previousStep_total
  | reset => exact engine.reset_total
  | submit handler => exact engine.submit_total handler
  | _ => exact congrArg Navigator.total (engine.perform_steady id).navigator

theorem Mounting.totalSteps_pos (mounting : Mounting) : 0 < mounting.totalSteps := by
  unfold totalSteps
  split
  case isTrue isWizard =>
    have listed : mounting.form.steps.isEmpty = false := by
      simp only [Form.isWizard, Bool.and_eq_true, Bool.not_eq_true'] at isWizard
      exact isWizard.2
    exact List.length_pos_iff.mpr fun nothing => by simp [nothing] at listed
  case isFalse => exact Nat.one_pos

end Engine

theorem Session.Reachable.totalSteps {mounting : Engine.Mounting} {session : Session}
    (reachable : Reachable mounting session) :
    session.engine.navigator.total = mounting.totalSteps := by
  induction reachable with
  | mounted =>
      have started : (mount mounting).engine.navigator = .ofTotal mounting.totalSteps :=
        (Engine.refreshDerived_steady (Engine.unfolded mounting) none).navigator
      rw [started]
      exact Nat.max_eq_left mounting.totalSteps_pos
  | @stepped session step _ _ ih =>
      cases step with
      | operate operation => exact (session.engine.perform_total operation).trans ih
      | take => exact ih
      | complete ticket result =>
          have steady := session.engine.completeFetch_steady ticket result
          exact (congrArg Navigator.total steady.navigator).trans ih

end DeclarativeForm
