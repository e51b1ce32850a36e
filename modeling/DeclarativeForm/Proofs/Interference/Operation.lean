import DeclarativeForm.Proofs.Fetch.Operation
import DeclarativeForm.Proofs.Interference.Alike

/-!
Operations on alike engines leave alike engines and give the same answers, the tickets that a
choice in a flow issues set aside.
-/

set_option autoImplicit false

namespace DeclarativeForm

def FlowSelection.blind : FlowSelection → FlowSelection
  | .applied change => .applied { change with tickets := [] }
  | selection => selection

def HostAnswer.blind : HostAnswer → HostAnswer
  | .selected (.ok selection) => .selected (.ok selection.blind)
  | answer => answer

/-! ### Validation -/

namespace Snapshot

variable {values : Json} {validators : Validators} {left right : Keyed FlowState}

theorem errorsOf_alike (alike : Keyed.Related FlowState.Alike left right) (visit : Visit) :
    (⟨values, validators, left⟩ : Snapshot).errorsOf visit =
      (⟨values, validators, right⟩ : Snapshot).errorsOf visit := by
  unfold errorsOf
  cases visit.node with
  | leaf leaf => rfl
  | group head fields => rfl
  | repeatable head template => rfl
  | flow flow =>
      have same := flow.missingRequired_alike (alike.find? visit.path.text)
      simp only [flowErrors, flowFindings, same]

theorem validateNodes_alike (alike : Keyed.Related FlowState.Alike left right)
    (nodes : List Node) :
    (⟨values, validators, left⟩ : Snapshot).validateNodes nodes =
      (⟨values, validators, right⟩ : Snapshot).validateNodes nodes := by
  have same : (⟨values, validators, left⟩ : Snapshot).errorsOf =
      (⟨values, validators, right⟩ : Snapshot).errorsOf := funext (errorsOf_alike alike)
  simp only [validateNodes, same]

theorem validateLocated_alike (alike : Keyed.Related FlowState.Alike left right)
    (located : Located) :
    (⟨values, validators, left⟩ : Snapshot).validateLocated located =
      (⟨values, validators, right⟩ : Snapshot).validateLocated located := by
  simp only [validateLocated, errorsOf_alike alike]

end Snapshot

/-! ### Stores -/

namespace Store.Alike

variable {left right : Store}

theorem flows (alike : left.Alike right) :
    Keyed.Related FlowState.Alike left.flows right.flows := by
  cases alike with
  | intro slots flows slotsAlike flowsAlike => exact flowsAlike

theorem update (alike : left.Alike right) (change : Store → Store)
    (blind : ∀ (store : Store) slots flows,
      change { store with slots, flows } = { change store with slots, flows })
    (keeps : ∀ store : Store, (change store).slots = store.slots ∧
      (change store).flows = store.flows) : (change left).Alike (change right) := by
  cases alike with
  | intro slots flows slotsAlike flowsAlike =>
      rw [blind left slots flows]
      refine .intro slots flows ?_ ?_
      · rw [(keeps left).1]
        exact slotsAlike
      · rw [(keeps left).2]
        exact flowsAlike

theorem setError (alike : left.Alike right) (key message : String) :
    (left.setError key message).Alike (right.setError key message) :=
  alike.update (fun store => store.setError key message) (fun _ _ _ => rfl) fun _ => ⟨rfl, rfl⟩

theorem clearError (alike : left.Alike right) (key : String) :
    (left.clearError key).Alike (right.clearError key) :=
  alike.update (fun store => store.clearError key) (fun _ _ _ => rfl) fun _ => ⟨rfl, rfl⟩

theorem recordErrors (alike : left.Alike right) (keys : List String) (errors : ErrorMap) :
    (Engine.recordErrors left keys errors).Alike (Engine.recordErrors right keys errors) := by
  unfold Engine.recordErrors
  induction keys generalizing left right with
  | nil => exact alike
  | cons key rest ih =>
      rw [List.foldl_cons, List.foldl_cons]
      cases errors.find? key with
      | none => exact ih (alike.clearError key)
      | some message => exact ih (alike.setError key message)

theorem foldl_clearError (alike : left.Alike right) (keys : List String)
    (place : String → String) :
    (keys.foldl (fun store key => store.clearError (place key)) left).Alike
      (keys.foldl (fun store key => store.clearError (place key)) right) := by
  induction keys generalizing left right with
  | nil => exact alike
  | cons key rest ih => exact ih (alike.clearError (place key))

theorem applyFlowChange (alike : left.Alike right) (path : FieldPath) (flow : Flow)
    (id value : String) (change : FlowChange) :
    (Engine.applyFlowChange left path flow id value change).Alike
      (Engine.applyFlowChange right path flow id value change) := by
  unfold Engine.applyFlowChange
  refine foldl_clearError ?_ change.reset fun step => path.text ++ "." ++ step
  cases change.output with
  | none =>
      dsimp only
      split
      · exact (alike.removeValue path).setError _ _
      · exact (alike.removeValue path).clearError _
  | some output =>
      dsimp only
      split
      · exact (alike.setValue path _).setError _ _
      · exact (alike.setValue path _).clearError _

theorem reindexRemoval (alike : left.Alike right) (repeatable : String) (removed : Nat) :
    (left.reindexRemoval repeatable removed).Alike (right.reindexRemoval repeatable removed) := by
  cases alike with
  | intro slots flows slotsAlike flowsAlike =>
      exact .intro _ _ (slotsAlike.reindex repeatable removed)
        (flowsAlike.reindex repeatable removed)

private theorem resetSlots_alike {one two : Keyed OptionsSlot}
    (slots : Keyed.Related OptionsSlot.Alike one two) (first second : Nat) :
    Keyed.Related OptionsSlot.Alike (resetSlots first one).1 (resetSlots second two).1 := by
  induction slots generalizing first second with
  | nil => exact .nil
  | cons _ _ ih => exact .cons (OptionsSlot.alike_ofGeneration first second) (ih _ _)

theorem reset (alike : left.Alike right) (first second : Nat) :
    (left.reset first).1.Alike (right.reset second).1 := by
  cases alike with
  | intro slots flows slotsAlike flowsAlike =>
      exact .intro _ _ (resetSlots_alike slotsAlike first second) .nil

end Store.Alike

namespace Engine

variable {left right : Engine}

/-! ### Derived state -/

theorem takeProgress_alike (alike : left.Alike right) (key : String) {one two : FlowProgress}
    (states : one.state.Alike two.state) :
    (left.takeProgress key one).Alike (right.takeProgress key two) := by
  cases alike with
  | intro store pending next events notices stores =>
      exact .intro _ _ _ _ _ (stores.putFlow key states)

theorem syncFlow_alike (alike : left.Alike right) (place : FlowPlace) :
    (left.syncFlow place).Alike (right.syncFlow place) := by
  have flows := alike.store.flow? place.path.text
  unfold syncFlow
  dsimp only
  generalize left.store.flow? place.path.text = one at flows ⊢
  generalize right.store.flow? place.path.text = two at flows ⊢
  cases flows with
  | some => exact alike
  | none =>
      rw [alike.values]
      exact takeProgress_alike alike _ (place.flow.start_alike _ _ _ _)

theorem syncFlows_alike (alike : left.Alike right) : left.syncFlows.Alike right.syncFlows := by
  unfold syncFlows
  rw [alike.form, alike.values]
  generalize flowPlaces left.form.fields left.values = places
  induction places generalizing left right with
  | nil => exact alike
  | cons place rest ih => exact ih (syncFlow_alike alike place)

theorem syncOptions_alike (alike : left.Alike right) (touched : Option String) :
    (left.syncOptions touched).Alike (right.syncOptions touched) := by
  have bound : right.passBound = left.passBound := by
    simp only [passBound, alike.form, alike.values]
  unfold syncOptions
  rw [bound]
  exact syncPasses_alike touched _ 0 alike

theorem refreshDerived_alike (alike : left.Alike right) (touched : Option String) :
    (left.refreshDerived touched).Alike (right.refreshDerived touched) :=
  syncOptions_alike (syncFlows_alike alike) touched

theorem refreshed_alike (alike : left.Alike right) (touched : Option String) :
    (left.refreshDerived touched).emitChange.Alike (right.refreshDerived touched).emitChange :=
  (refreshDerived_alike alike touched).emit _ _

/-! ### Editing -/

theorem recordLocated_alike (alike : left.Alike right) (key : String) (located : Located) :
    (left.recordLocated key located).Alike (right.recordLocated key located) := by
  cases alike with
  | intro store pending next events notices stores =>
      have same :
          (⟨store.values, left.validators, store.flows⟩ : Snapshot).validateLocated located =
            left.snapshot.validateLocated located := by
        rw [stores.values]
        exact (Snapshot.validateLocated_alike stores.flows located).symm
      have recorded := stores.recordErrors (keysOf key located.node)
        (left.snapshot.validateLocated located)
      rw [← same] at recorded
      have errors : left.recordLocated key located = { left with
          store := recordErrors left.store (keysOf key located.node)
            ((⟨store.values, left.validators, store.flows⟩ : Snapshot).validateLocated located)
          notices := left.notices ++ left.snapshot.validateLocatedNotices located } := by
        rw [same]
        rfl
      rw [errors]
      exact .intro _ _ _ _ _ recorded

theorem locate_alike (alike : left.Alike right) (text : String) :
    right.locate text = left.locate text := by
  simp only [locate, alike.form]

theorem error?_alike (alike : left.Alike right) (key : String) :
    right.error? key = left.error? key := by
  cases alike with
  | intro store pending next events notices stores =>
      cases stores
      rfl

theorem trigger_alike (alike : left.Alike right) : right.trigger = left.trigger := by
  cases alike
  rfl

theorem setValue_alike (alike : left.Alike right) (text : String) (value : Json) :
    (left.setValue text value).1.Alike (right.setValue text value).1 ∧
      (left.setValue text value).2 = (right.setValue text value).2 := by
  unfold setValue
  rw [locate_alike alike text, alike.values]
  cases left.locate text with
  | error rejection => exact ⟨alike, rfl⟩
  | ok found =>
      obtain ⟨path, located⟩ := found
      dsimp only
      cases missingItem? path left.values with
      | some missing => exact ⟨alike, rfl⟩
      | none =>
          have written := alike.withStore (alike.store.setValue path value)
          have trigger := trigger_alike alike
          dsimp only
          by_cases onChange : left.trigger = .change
          · rw [if_pos onChange, if_pos (trigger.trans onChange)]
            exact ⟨refreshed_alike (recordLocated_alike written _ _) _, rfl⟩
          · rw [if_neg onChange, if_neg fun other => onChange (trigger.symm.trans other)]
            exact ⟨refreshed_alike written _, rfl⟩

theorem validateField_alike (alike : left.Alike right) (text : String) :
    (left.validateField text).1.Alike (right.validateField text).1 ∧
      (left.validateField text).2 = (right.validateField text).2 := by
  unfold validateField
  rw [locate_alike alike text]
  cases left.locate text with
  | error rejection => exact ⟨alike, rfl⟩
  | ok found =>
      have recorded := recordLocated_alike alike found.1.text found.2
      refine ⟨recorded, ?_⟩
      dsimp only
      rw [error?_alike recorded]

theorem blur_alike (alike : left.Alike right) (text : String) :
    (left.blur text).1.Alike (right.blur text).1 ∧ (left.blur text).2 = (right.blur text).2 := by
  unfold blur
  rw [trigger_alike alike]
  split
  · cases parsePath text with
    | error rejection => exact ⟨alike, rfl⟩
    | ok path =>
        refine ⟨alike, ?_⟩
        dsimp only
        rw [error?_alike alike]
  · exact validateField_alike alike text

theorem snapshot_alike (alike : left.Alike right) (nodes : List Node) :
    left.snapshot.validateNodes nodes = right.snapshot.validateNodes nodes := by
  cases alike with
  | intro store pending next events notices stores =>
      simp only [snapshot, stores.values]
      exact Snapshot.validateNodes_alike stores.flows nodes

theorem validateAll_alike (alike : left.Alike right) :
    left.validateAll.Alike right.validateAll := by
  have errors : left.snapshot.validateNodes left.form.fields =
      right.snapshot.validateNodes right.form.fields := by
    rw [alike.form]
    exact snapshot_alike alike left.form.fields
  unfold validateAll Snapshot.validateAll
  rw [← errors]
  exact (alike.note _ _).withStore (alike.store.update
    (fun store => store.replaceErrors (left.snapshot.validateNodes left.form.fields))
    (fun _ _ _ => rfl) fun _ => ⟨rfl, rfl⟩)

theorem errors_alike (alike : left.Alike right) : right.store.errors = left.store.errors := by
  cases alike with
  | intro store pending next events notices stores =>
      cases stores
      rfl

/-! ### Wizards -/

theorem navigator_alike (alike : left.Alike right) : right.navigator = left.navigator := by
  cases alike
  rfl

theorem currentNodes_alike (alike : left.Alike right) : right.currentNodes = left.currentNodes := by
  simp only [currentNodes, currentStep?, alike.form, navigator_alike alike]

theorem validateStep_alike (alike : left.Alike right) :
    left.validateStep.1.Alike right.validateStep.1 ∧
      left.validateStep.2 = right.validateStep.2 := by
  have errors := snapshot_alike alike left.currentNodes
  rw [validateStep_eq, validateStep_eq, currentNodes_alike alike, ← errors]
  refine ⟨?_, rfl⟩
  exact ((alike.note _ _).note _ _).withStore (alike.store.update
    (fun store => store.mergeErrorsUnder (ownedKeys left.currentNodes)
      (left.snapshot.validateNodes left.currentNodes))
    (fun _ _ _ => rfl) fun _ => ⟨rfl, rfl⟩)

theorem closeDropdowns_alike (alike : left.Alike right) :
    left.closeDropdowns.Alike right.closeDropdowns :=
  alike.withStore (alike.store.update Store.closeDropdowns (fun _ _ _ => rfl) fun _ => ⟨rfl, rfl⟩)

theorem move_alike (alike : left.Alike right) (navigator : Navigator) (transition : Transition) :
    (left.move navigator transition).Alike (right.move navigator transition) := by
  have steered {one two : Engine} (same : one.Alike two) :
      Alike { one with navigator } { two with navigator } := by
    cases same with
    | intro store pending next events notices stores =>
        exact .intro store pending next events notices stores
  cases transition with
  | moved origin target => exact (steered (closeDropdowns_alike alike)).emit _ _
  | blocked errors => exact steered alike
  | boundary => exact steered alike

theorem nextStep_alike (alike : left.Alike right) :
    left.nextStep.1.Alike right.nextStep.1 ∧ left.nextStep.2 = right.nextStep.2 := by
  obtain ⟨validated, errors⟩ := validateStep_alike alike
  unfold nextStep
  rw [navigator_alike alike]
  split
  · exact ⟨alike, rfl⟩
  · dsimp only
    rw [← errors, navigator_alike validated]
    split
    · exact ⟨validated, rfl⟩
    · exact ⟨move_alike validated _ _, rfl⟩

theorem previousStep_alike (alike : left.Alike right) :
    left.previousStep.1.Alike right.previousStep.1 ∧
      left.previousStep.2 = right.previousStep.2 := by
  unfold previousStep
  rw [navigator_alike alike]
  exact ⟨move_alike alike _ _, rfl⟩

/-! ### Items -/

theorem addItem_alike (alike : left.Alike right) (text : String) :
    (left.addItem text).1.Alike (right.addItem text).1 ∧
      (left.addItem text).2 = (right.addItem text).2 := by
  unfold addItem
  rw [locate_alike alike text, alike.values]
  cases left.locate text with
  | error rejection => exact ⟨alike, rfl⟩
  | ok found =>
      obtain ⟨path, node, context⟩ := found
      cases node with
      | leaf field => exact ⟨alike, rfl⟩
      | group head fields => exact ⟨alike, rfl⟩
      | flow flow => exact ⟨alike, rfl⟩
      | repeatable head template =>
          dsimp only
          rw [show right.store.value? path = left.store.value? path by
            simp only [Store.value?, alike.store.values]]
          split
          · exact ⟨alike.withStore (alike.store.setError _ _), rfl⟩
          · exact ⟨refreshed_alike (alike.withStore (alike.store.setValue path _)) _, rfl⟩

theorem removeItem_alike (alike : left.Alike right) (text : String) (index : Nat) :
    (left.removeItem text index).1.Alike (right.removeItem text index).1 ∧
      (left.removeItem text index).2 = (right.removeItem text index).2 := by
  unfold removeItem
  rw [locate_alike alike text, alike.values]
  cases left.locate text with
  | error rejection => exact ⟨alike, rfl⟩
  | ok found =>
      obtain ⟨path, node, context⟩ := found
      cases node with
      | leaf field => exact ⟨alike, rfl⟩
      | group head fields => exact ⟨alike, rfl⟩
      | flow flow => exact ⟨alike, rfl⟩
      | repeatable head template =>
          dsimp only
          split
          · exact ⟨alike, rfl⟩
          · split
            · exact ⟨alike.withStore (alike.store.setError _ _), rfl⟩
            · have without := alike.store.removeValue (path.item index)
              have moved := without.reindexRemoval path.text index
              have removed := alike.withPending (moved.clearError path.text)
              exact ⟨refreshed_alike (removed _ _) _, rfl⟩

/-! ### Options -/

theorem refreshOptions_alike (alike : left.Alike right) (text : String) :
    (left.refreshOptions text).1.Alike (right.refreshOptions text).1 ∧
      (left.refreshOptions text).2 = (right.refreshOptions text).2 := by
  have noted := alike.note (optionBindingNotices left.form.fields left.values)
    (optionBindingNotices left.form.fields left.values)
  unfold refreshOptions
  rw [locate_alike alike text]
  simp only [alike.form, alike.values]
  cases left.locate text with
  | error rejection => exact ⟨alike, rfl⟩
  | ok found =>
      dsimp only
      split
      · exact ⟨noted, rfl⟩
      · exact ⟨noted.requestOptions _ _ _ _, rfl⟩

/-! ### Flows -/

private theorem applied_alike (alike : left.Alike right) (path : FieldPath) (flow : Flow)
    (id value : String) {one two : FlowProgress} (states : one.state.Alike two.state)
    (output : Option String) (emptied : List String) :
    Alike
      { left with
        store := applyFlowChange (left.store.putFlow path.text one.state) path flow id value
          ⟨one.tickets, output, emptied⟩
        pending := left.pending ++ one.tickets
        next := one.next }
      { right with
        store := applyFlowChange (right.store.putFlow path.text two.state) path flow id value
          ⟨two.tickets, output, emptied⟩
        pending := right.pending ++ two.tickets
        next := two.next } := by
  have stores := (alike.store.putFlow path.text states).applyFlowChange path flow id value
    ⟨[], output, emptied⟩
  cases alike with
  | intro store pending next events notices => exact .intro _ _ _ _ _ stores

private theorem kept_alike (alike : left.Alike right) (key : String) {one two : FlowState}
    (states : one.Alike two) :
    Alike { left with store := left.store.putFlow key one }
      { right with store := right.store.putFlow key two } :=
  alike.withStore (alike.store.putFlow key states)

theorem selectFlowStep_alike (alike : left.Alike right) (text id value : String) :
    (left.selectFlowStep text id value).1.Alike (right.selectFlowStep text id value).1 ∧
      (HostAnswer.selected (left.selectFlowStep text id value).2).blind =
        (HostAnswer.selected (right.selectFlowStep text id value).2).blind := by
  unfold selectFlowStep
  rw [locate_alike alike text]
  cases left.locate text with
  | error rejection => exact ⟨alike, rfl⟩
  | ok found =>
      obtain ⟨path, node, context⟩ := found
      cases node with
      | leaf field => exact ⟨alike, rfl⟩
      | group head fields => exact ⟨alike, rfl⟩
      | repeatable head template => exact ⟨alike, rfl⟩
      | flow flow =>
          have synced := syncFlow_alike alike ⟨path, flow, context⟩
          dsimp only
          generalize left.syncFlow ⟨path, flow, context⟩ = first at synced ⊢
          generalize right.syncFlow ⟨path, flow, context⟩ = second at synced ⊢
          have flows := synced.store.flow? path.text
          generalize first.store.flow? path.text = one at flows ⊢
          generalize second.store.flow? path.text = two at flows ⊢
          cases flows with
          | none => exact ⟨synced, rfl⟩
          | @some one two states =>
              dsimp only
              cases place : flow.stepIndex id with
              | none =>
                  simp only [Flow.select, place]
                  exact ⟨kept_alike synced path.text states, trivial⟩
              | some index =>
                  have enabled := flow.isStepEnabled_alike states index
                  by_cases isOpen : flow.isStepEnabled one index = true
                  · have chosen := flow.choose_alike path.text states index id value
                      (context.scope first.values) first.next second.next
                    simp only [Flow.select, place, if_pos isOpen, if_pos (enabled ▸ isOpen),
                      synced.values]
                    exact ⟨refreshed_alike (applied_alike synced path flow id value chosen _ _) _,
                      rfl⟩
                  · simp only [Flow.select, place, if_neg isOpen, if_neg (enabled ▸ isOpen)]
                    exact ⟨kept_alike synced path.text states, trivial⟩

/-! ### Submission -/

theorem withStatus_alike (alike : left.Alike right) (status : Status) :
    Alike { left with status } { right with status } := by
  cases alike with
  | intro store pending next events notices stores =>
      exact .intro store pending next events notices stores

private theorem withSubmitting_alike (alike : left.Alike right) (submitting : Bool) :
    Alike { left with store := { left.store with submitting } }
      { right with store := { right.store with submitting } } :=
  alike.withStore (alike.store.update (fun store => { store with submitting })
    (fun _ _ _ => rfl) fun _ => ⟨rfl, rfl⟩)

theorem reset_alike (alike : left.Alike right) : left.reset.Alike right.reset := by
  have emptied : left.emptied.Alike right.emptied := by
    have stores := alike.store.reset left.next right.next
    cases alike with
    | intro store pending next events notices => exact .intro _ _ _ _ _ stores
  rw [reset_eq, reset_eq]
  exact refreshed_alike emptied none

theorem submitMessages_alike (alike : left.Alike right) :
    right.submitMessages = left.submitMessages := by
  simp only [submitMessages, alike.form]

theorem startSubmitting_alike (alike : left.Alike right) :
    left.startSubmitting.Alike right.startSubmitting := by
  unfold startSubmitting
  rw [submitMessages_alike alike]
  exact withStatus_alike (withSubmitting_alike alike true) _

theorem conclude_alike (alike : left.Alike right) (answer : Except String Unit) :
    (left.conclude answer).1.Alike (right.conclude answer).1 ∧
      (left.conclude answer).2 = (right.conclude answer).2 := by
  unfold conclude
  cases answer with
  | ok _ =>
      have message : right.submitMessages.success.getD right.options.successMessage =
          left.submitMessages.success.getD left.options.successMessage := by
        rw [submitMessages_alike alike, alike.options]
      dsimp only
      rw [message]
      exact ⟨(withStatus_alike (reset_alike alike) _).emit _ _, rfl⟩
  | error cause =>
      have message : right.submitMessages.failure.getD right.options.failureMessage =
          left.submitMessages.failure.getD left.options.failureMessage := by
        rw [submitMessages_alike alike, alike.options]
      dsimp only
      rw [message]
      exact ⟨((withStatus_alike alike _).note _ _).emit _ _, rfl⟩

theorem finishSubmitting_alike (alike : left.Alike right) (answer : Except String Unit) :
    (left.finishSubmitting answer).1.Alike (right.finishSubmitting answer).1 ∧
      (left.finishSubmitting answer).2 = (right.finishSubmitting answer).2 :=
  conclude_alike (withSubmitting_alike alike false) answer

theorem submit_alike (alike : left.Alike right) (handler : Json → Except String Unit) :
    (left.submit handler).engine.Alike (right.submit handler).engine ∧
      (left.submit handler).outcome = (right.submit handler).outcome ∧
      (left.submit handler).sent = (right.submit handler).sent := by
  have validated := validateAll_alike alike
  have started := startSubmitting_alike validated
  unfold submit
  dsimp only
  rw [errors_alike validated]
  split
  · exact ⟨withStatus_alike validated _, rfl, rfl⟩
  · rw [started.values]
    have finished := finishSubmitting_alike started
      (handler left.validateAll.startSubmitting.values)
    exact ⟨finished.1, finished.2, rfl⟩

/-! ### All operations -/

theorem toggleDropdown_alike (alike : left.Alike right) (key : String) :
    (left.toggleDropdown key).Alike (right.toggleDropdown key) :=
  alike.withStore (alike.store.update (fun store => store.toggleDropdown key) (fun _ _ _ => rfl)
    fun _ => ⟨rfl, rfl⟩)

theorem togglePassword_alike (alike : left.Alike right) (key : String) :
    (left.togglePassword key).Alike (right.togglePassword key) :=
  alike.withStore (alike.store.update (fun store => store.togglePassword key) (fun _ _ _ => rfl)
    fun _ => ⟨rfl, rfl⟩)

theorem perform_alike (alike : left.Alike right) (operation : HostOperation) :
    (left.perform operation).1.Alike (right.perform operation).1 ∧
      (left.perform operation).2.blind = (right.perform operation).2.blind := by
  cases operation with
  | setValue text value =>
      obtain ⟨engines, answers⟩ := setValue_alike alike text value
      exact ⟨engines, congrArg (fun result => (HostAnswer.written result).blind) answers⟩
  | blur text =>
      obtain ⟨engines, answers⟩ := blur_alike alike text
      exact ⟨engines, congrArg (fun result => (HostAnswer.checked result).blind) answers⟩
  | validateField text =>
      obtain ⟨engines, answers⟩ := validateField_alike alike text
      exact ⟨engines, congrArg (fun result => (HostAnswer.checked result).blind) answers⟩
  | validateAll =>
      have engines := validateAll_alike alike
      have answers := congrArg List.length (errors_alike engines)
      exact ⟨engines, congrArg (fun count => (HostAnswer.counted count).blind) answers.symm⟩
  | validateStep =>
      obtain ⟨engines, answers⟩ := validateStep_alike alike
      exact ⟨engines, congrArg (fun count => (HostAnswer.counted count).blind) answers⟩
  | addItem text =>
      obtain ⟨engines, answers⟩ := addItem_alike alike text
      exact ⟨engines, congrArg (fun result => (HostAnswer.added result).blind) answers⟩
  | removeItem text index =>
      obtain ⟨engines, answers⟩ := removeItem_alike alike text index
      exact ⟨engines, congrArg (fun result => (HostAnswer.written result).blind) answers⟩
  | selectFlowStep text id value => exact selectFlowStep_alike alike text id value
  | refreshOptions text =>
      obtain ⟨engines, answers⟩ := refreshOptions_alike alike text
      exact ⟨engines, congrArg (fun result => (HostAnswer.written result).blind) answers⟩
  | nextStep =>
      obtain ⟨engines, answers⟩ := nextStep_alike alike
      exact ⟨engines, congrArg (fun result => (HostAnswer.moved result).blind) answers⟩
  | previousStep =>
      obtain ⟨engines, answers⟩ := previousStep_alike alike
      exact ⟨engines, congrArg (fun result => (HostAnswer.moved result).blind) answers⟩
  | toggleDropdown key => exact ⟨toggleDropdown_alike alike key, rfl⟩
  | closeDropdowns => exact ⟨closeDropdowns_alike alike, rfl⟩
  | togglePassword key => exact ⟨togglePassword_alike alike key, rfl⟩
  | reset => exact ⟨reset_alike alike, rfl⟩
  | submit handler =>
      obtain ⟨engines, outcomes, sent⟩ := submit_alike alike handler
      exact ⟨engines, congrArg₂ (fun outcome sent => (HostAnswer.submitted outcome sent).blind)
        outcomes sent⟩

end Engine

end DeclarativeForm
