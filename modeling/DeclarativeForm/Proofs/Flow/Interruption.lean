import DeclarativeForm.Proofs.Flow.Sequence

/-!
Steps that depend on a step which is not the one right before them. A choice renews all steps behind
the chosen one and asks only for those that depend on it, so a step loses its options when a step
between it and the one it depends on is chosen. Until then it is asked for what that one is worth.
-/

set_option autoImplicit false

namespace DeclarativeForm.FlowRun

def chosenSince (run : FlowRun) (id : String) : List String :=
  run.chosen.takeWhile fun other => other ≠ id

/-- A step strictly between two others was chosen since the first of them was. -/
def Interrupted (flow : Flow) (run : FlowRun) (earlier position : Nat) (source : FlowStep) :
    Prop :=
  ∃ between step, earlier < between ∧ between < position ∧ flow.steps[between]? = some step ∧
    step.id ∈ run.chosenSince source.id

/-- If the source has a value, the step is asked for it, or for nothing when a step between the two
was chosen since. -/
def Served (flow : Flow) (run : FlowRun) (earlier position : Nat) (source step : FlowStep) :
    Prop :=
  run.state.value source.id ≠ "" →
    ∃ current, run.state.step? step.id = some current ∧
      (Interrupted flow run earlier position source → current.slot.requestedFor = none) ∧
      (¬Interrupted flow run earlier position source →
        ∃ rest, current.slot.requestedFor =
          some (.string (run.state.value source.id) :: rest))

variable {flow : Flow} {path : String} {run : FlowRun} {earlier position : Nat}
  {source step : FlowStep}

theorem argsAfter_source {value : String} (scope : Scope)
    (depends : step.optionsSource.dependsOn = some (.one source.id)) (filled : value ≠ "") :
    step.argsAfter source.id value scope = some (.string value :: step.paramValues scope) := by
  have nonempty : value.isEmpty = false := String.isEmpty_eq_false_iff.mpr filled
  rw [FlowStep.argsAfter, nonempty, dependsOn_iff.mpr depends]
  rfl

theorem argsAfter_other {id : String} (value : String) (scope : Scope)
    (depends : step.optionsSource.dependsOn = some (.one source.id)) (other : id ≠ source.id) :
    step.argsAfter id value scope = none := by
  rw [← Option.not_isSome_iff_eq_none, Option.isSome_iff_exists]
  rintro ⟨args, asked⟩
  cases depends.symm.trans (argsAfter_eq_some asked).1
  exact other rfl

/-- A choice interrupts what depends on the steps before the chosen one, and starts anew with the
chosen one. -/
theorem interrupted_choose_iff {id : String} {index : Nat} (value : String) (scope : Scope)
    (distinct : (flow.steps.map FlowStep.id).Nodup) (found : flow.stepIndex id = some index)
    (isSource : flow.steps[earlier]? = some source) :
    Interrupted flow (run.choose flow path index id value scope) earlier position source ↔
      index ≠ earlier ∧
        (earlier < index ∧ index < position ∨ Interrupted flow run earlier position source) := by
  obtain ⟨last, isLast, sameId⟩ := Flow.exists_step found
  have since : (run.choose flow path index id value scope).chosenSince source.id =
      if id = source.id then [] else id :: run.chosenSince source.id := by
    rw [chosenSince, choose, List.takeWhile_cons]
    by_cases same : id = source.id
    · rw [if_pos same, if_neg (by simp [same])]
    · rw [if_neg same, if_pos (by simp [same])]
      rfl
  have atSource : index = earlier ↔ id = source.id := by
    rw [← sameId]
    constructor
    · rintro rfl
      cases isLast.symm.trans isSource
      rfl
    · exact Flow.eq_of_same_id distinct isLast isSource
  unfold Interrupted
  rw [since, Ne, atSource]
  by_cases same : id = source.id
  · rw [if_pos same]
    refine iff_of_false ?_ fun both => both.1 same
    rintro ⟨_, _, _, _, _, member⟩
    cases member
  · rw [if_neg same]
    constructor
    · rintro ⟨between, step, behind, before, isBetween, member⟩
      refine ⟨same, ?_⟩
      rcases List.mem_cons.mp member with isChosen | wasChosen
      · have place := Flow.eq_of_same_id distinct isBetween isLast (isChosen.trans sameId.symm)
        exact Or.inl (place ▸ ⟨behind, before⟩)
      · exact Or.inr ⟨between, step, behind, before, isBetween, wasChosen⟩
    · rintro ⟨_, ⟨behind, before⟩ | ⟨between, step, behind, before, isBetween, member⟩⟩
      · exact ⟨index, last, behind, before, isLast, sameId ▸ List.mem_cons_self⟩
      · exact ⟨between, step, behind, before, isBetween, List.mem_cons_of_mem _ member⟩

/-- It depends on the value of the source, on what the step is asked for, and on whether a step
between the two was chosen. -/
theorem Served.congr {after : FlowRun} (served : Served flow run earlier position source step)
    (value : after.state.value source.id = run.state.value source.id)
    (requests : (after.state.step? step.id).map (fun step => step.slot.requestedFor) =
      (run.state.step? step.id).map fun step => step.slot.requestedFor)
    (interrupted : Interrupted flow after earlier position source ↔
      Interrupted flow run earlier position source) :
    Served flow after earlier position source step := by
  intro filled
  rw [value] at filled ⊢
  obtain ⟨current, present, interruptedNone, freeAsked⟩ := served filled
  rw [present] at requests
  obtain ⟨later, isThere, same⟩ := Option.map_eq_some_iff.mp requests
  rw [interrupted]
  exact ⟨later, isThere, fun isSo => same.trans (interruptedNone isSo),
    fun free => (freeAsked free).imp fun _ asked => same.trans asked⟩

theorem Served.choose_source (orderly : run.Orderly flow)
    (distinct : (flow.steps.map FlowStep.id).Nodup)
    (found : flow.stepIndex source.id = some earlier)
    (isSource : flow.steps[earlier]? = some source) (isStep : flow.steps[position]? = some step)
    (before : earlier < position)
    (depends : step.optionsSource.dependsOn = some (.one source.id)) (path value : String)
    (scope : Scope) :
    Served flow (run.choose flow path earlier source.id value scope) earlier position source
      step := by
  have chosen :
      (run.choose flow path earlier source.id value scope).state.value source.id = value :=
    Flow.choose_value_self orderly.steps distinct found path value scope run.next
  intro filled
  rw [chosen] at filled ⊢
  obtain ⟨renewed, isRenewed⟩ :=
    Flow.choose_behind orderly.steps distinct path value scope run.next isStep before
  refine ⟨renewed, isRenewed.present, fun isSo => ?_, fun _ => ⟨step.paramValues scope, ?_⟩⟩
  · exact absurd rfl ((interrupted_choose_iff value scope distinct found isSource).mp isSo).1
  · exact isRenewed.requestedFor.trans (argsAfter_source scope depends filled)

/-- A step loses its options when one between it and the one that it depends on is chosen. -/
theorem Served.choose_between {id : String} {index : Nat} (orderly : run.Orderly flow)
    (distinct : (flow.steps.map FlowStep.id).Nodup) (found : flow.stepIndex id = some index)
    (isSource : flow.steps[earlier]? = some source) (isStep : flow.steps[position]? = some step)
    (depends : step.optionsSource.dependsOn = some (.one source.id)) (behind : earlier < index)
    (between : index < position) (path value : String) (scope : Scope) :
    Served flow (run.choose flow path index id value scope) earlier position source step := by
  obtain ⟨last, isLast, sameId⟩ := Flow.exists_step found
  obtain ⟨renewed, isRenewed⟩ :=
    Flow.choose_behind orderly.steps distinct path value scope run.next isStep between
  have other : id ≠ source.id := fun same => Nat.ne_of_gt behind
    (Flow.eq_of_same_id distinct isLast isSource (sameId.trans same))
  have isInterrupted :
      Interrupted flow (run.choose flow path index id value scope) earlier position source :=
    (interrupted_choose_iff value scope distinct found isSource).mpr
      ⟨Nat.ne_of_gt behind, Or.inl ⟨behind, between⟩⟩
  exact fun _ => ⟨renewed, isRenewed.present,
    fun _ => isRenewed.requestedFor.trans (argsAfter_other value scope depends other),
    fun free => absurd isInterrupted free⟩

theorem Served.select (served : Served flow run earlier position source step)
    (orderly : run.Orderly flow) (distinct : (flow.steps.map FlowStep.id).Nodup)
    (isSource : flow.steps[earlier]? = some source) (isStep : flow.steps[position]? = some step)
    (before : earlier < position) (depends : step.optionsSource.dependsOn = some (.one source.id))
    (path id value : String) (scope : Scope) :
    Served flow (run.select flow path id value scope) earlier position source step := by
  rcases run.select_cases flow path id value scope with same | ⟨index, found, enabled, same⟩
  · rw [same]
    exact served
  rw [same]
  obtain ⟨last, isLast, sameId⟩ := Flow.exists_step found
  rcases Nat.lt_trichotomy index earlier with isBefore | rfl | isBehind
  · obtain ⟨point, wasFilled⟩ := orderly.filled
    have after :=
      wasFilled.choose orderly.steps distinct found enabled path value scope run.next
    exact fun filled => absurd (after.behind earlier source isSource isBefore) filled
  · cases isLast.symm.trans isSource
    subst sameId
    exact .choose_source orderly distinct found isSource isStep before depends path value scope
  · by_cases between : index < position
    · exact .choose_between orderly distinct found isSource isStep depends isBehind between path
        value scope
    · have kept := Flow.choose_value_before orderly.steps distinct found path value scope
        run.next isSource isBehind
      have slot := @Flow.choose_slot flow run.state id index position step distinct found path
        value scope run.next isStep between
      refine served.congr kept ?_ ?_
      · have requests := congrArg (Option.map OptionsSlot.requestedFor) slot
        rwa [Option.map_map, Option.map_map] at requests
      · rw [interrupted_choose_iff value scope distinct found isSource,
          or_iff_right fun inBetween => between inBetween.2]
        exact and_iff_right (Nat.ne_of_gt isBehind)

theorem Served.complete (served : Served flow run earlier position source step)
    (ticket : Ticket) (result : FetchResult) :
    Served flow (run.complete ticket result) earlier position source step := by
  rcases run.complete_cases ticket result with same | ⟨id, after, done, same⟩
  · rw [same]
    exact served
  · rw [same]
    obtain ⟨_, values⟩ := @FlowState.complete_keeps flow _ _ _ _ _ done
    exact served.congr (values source.id) (FlowState.complete_requestedFor done step.id) Iff.rfl

theorem Reachable.served (reachable : Reachable flow path run)
    (distinct : (flow.steps.map FlowStep.id).Nodup) (isSource : flow.steps[earlier]? = some source)
    (isStep : flow.steps[position]? = some step) (before : earlier < position)
    (depends : step.optionsSource.dependsOn = some (.one source.id)) :
    Served flow run earlier position source step := by
  induction reachable with
  | started scope next => exact fun filled => absurd ((flow.start_spec path scope next).2 _) filled
  | elsewhere later grown _ ih => exact ih
  | selected id value scope earlierRun ih =>
      exact ih.select (earlierRun.orderly distinct) distinct isSource isStep before depends path id
        value scope
  | completed _ result _ ih => exact ih.complete _ result

/-- A step that depends on an earlier one is there in every run, and when the earlier one has a
value it is asked for that value as long as no step between the two is chosen, and for nothing
afterwards. A step that depends on the one right before it is always asked for its value. -/
theorem Reachable.requested_unless_interrupted (reachable : Reachable flow path run)
    (distinct : (flow.steps.map FlowStep.id).Nodup) (isSource : flow.steps[earlier]? = some source)
    (isStep : flow.steps[position]? = some step) (before : earlier < position)
    (depends : step.optionsSource.dependsOn = some (.one source.id))
    (filled : run.state.value source.id ≠ "") :
    ∃ current, run.state.step? step.id = some current ∧
      (Interrupted flow run earlier position source → current.slot.requestedFor = none) ∧
      (¬Interrupted flow run earlier position source ∨ position = earlier + 1 →
        ∃ rest, current.slot.requestedFor =
          some (.string (run.state.value source.id) :: rest)) := by
  obtain ⟨current, present, interruptedNone, freeAsked⟩ :=
    reachable.served distinct isSource isStep before depends filled
  refine ⟨current, present, interruptedNone, ?_⟩
  rintro (free | adjacent)
  · exact freeAsked free
  · refine freeAsked ?_
    rintro ⟨between, _, behind, ahead, _⟩
    omega

/-- The guides of Italy are asked for while no city is chosen. -/
theorem italianGuides_requested :
    ∃ current rest, inItaly.state.step? "guide" = some current ∧
      current.slot.requestedFor = some (.string "Italy" :: rest) := by
  have distinct : (trip.steps.map FlowStep.id).Nodup := by decide +kernel
  have filled : inItaly.state.value "country" ≠ "" := by decide +kernel
  obtain ⟨current, present, _, asked⟩ :=
    @Reachable.requested_unless_interrupted trip "trip" inItaly 0 2 _ _ inItaly_reachable distinct
      rfl rfl Nat.two_pos rfl filled
  have free : ¬Interrupted trip inItaly 0 2 trip.steps[0] := by
    rintro ⟨_, _, _, _, _, member⟩
    cases member
  obtain ⟨rest, same⟩ := asked (Or.inl free)
  exact ⟨current, rest, present, same⟩

def inRome : FlowRun :=
  inItaly.select trip "trip" "city" "Rome" nowhere

/-- Once a city is chosen no guides are asked for, although the country they depend on is still
Italy. -/
theorem guides_unasked_inRome :
    (trip.steps.map FlowStep.id).Nodup ∧ Reachable trip "trip" inRome ∧
      trip.steps[2].optionsSource.dependsOn = some (.one trip.steps[0].id) ∧
      inRome.state.value trip.steps[0].id = "Italy" ∧
      ¬∃ current args, inRome.state.step? trip.steps[2].id = some current ∧
        current.slot.requestedFor = some args := by
  refine ⟨by decide +kernel, .selected "city" "Rome" nowhere inItaly_reachable, rfl,
    by decide +kernel, ?_⟩
  have unasked : (inRome.state.step? "guide").map (fun step => step.slot.requestedFor.isNone) =
      some true := by decide +kernel
  rintro ⟨current, args, present, asked⟩
  have none := Option.some.inj ((congrArg (Option.map _) present).symm.trans unasked)
  rw [asked] at none
  cases none

end DeclarativeForm.FlowRun
