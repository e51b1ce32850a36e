import DeclarativeForm.Proofs.Sync.Cascade
import DeclarativeForm.Proofs.Validation.Derivation

/-!
Operations that are rejected. Each looks for its node, its item and its bounds before it changes
anything, so an engine that rejects an operation is the engine there was. Only the bounds of a
repeatable leave something behind: the error at its path that says why no item was added or
removed. A choice that is not open leaves a flow alone that has a state; one that has none would
start.
-/

set_option autoImplicit false

namespace DeclarativeForm

deriving instance DecidableEq for FlowChange, FlowSelection

def HostAnswer.rejection? : HostAnswer → Option FormError
  | .written (.error rejection) => some rejection
  | .checked (.error rejection) => some rejection
  | .added (.error rejection) => some rejection
  | .selected (.error rejection) => some rejection
  | _ => none

/-- The rejections of additions and removals that the bounds of a repeatable do not allow. -/
def FormError.isBound : FormError → Bool
  | itemLimit _ _ => true
  | itemMinimum _ _ => true
  | _ => false

namespace Engine

/-- What is left behind by an operation that is rejected. -/
inductive Rejects (engine : Engine) : HostOperation → FormError → Engine → Prop
  | unchanged {operation : HostOperation} {rejection : FormError}
      (other : rejection.isBound = false) : Rejects engine operation rejection engine
  | most {text : String} {path : FieldPath} {head : Repeatable} {template : List Node}
      {place : Context} {most : Nat}
      (found : engine.locate text = .ok (path, ⟨.repeatable head template, place⟩))
      (bound : head.maxItemCount = some most) (full : most ≤ itemCount path engine.values) :
      Rejects engine (.addItem text) (.itemLimit path.text most)
        { engine with store := engine.store.setError path.text (head.maxItemsMessage most) }
  | least {text : String} {index : Nat} {path : FieldPath} {head : Repeatable}
      {template : List Node} {place : Context} {least : Nat}
      (found : engine.locate text = .ok (path, ⟨.repeatable head template, place⟩))
      (bound : head.minItems = some least) (few : itemCount path engine.values ≤ least) :
      Rejects engine (.removeItem text index) (.itemMinimum path.text least)
        { engine with store := engine.store.setError path.text (head.minItemsMessage least) }

variable {engine : Engine} {text : String} {rejection : FormError}

theorem isBound_of_parsePath (refused : parsePath text = .error rejection) :
    rejection.isBound = false := by
  unfold parsePath at refused
  split at refused <;> cases refused
  rfl

theorem isBound_of_locate (refused : engine.locate text = .error rejection) :
    rejection.isBound = false := by
  unfold locate at refused
  cases parsed : parsePath text with
  | error fault =>
      rw [parsed] at refused
      cases refused
      exact isBound_of_parsePath parsed
  | ok path =>
      rw [parsed] at refused
      dsimp only at refused
      split at refused <;> cases refused
      rfl

/-! ### Operations -/

theorem setValue_rejects {value : Json}
    (rejected : (engine.setValue text value).2 = .error rejection) :
    engine.Rejects (.setValue text value) rejection (engine.setValue text value).1 := by
  unfold setValue at rejected ⊢
  cases found : engine.locate text with
  | error fault =>
      rw [found] at rejected
      cases rejected
      exact .unchanged (isBound_of_locate found)
  | ok result =>
      rw [found] at rejected
      dsimp only at rejected ⊢
      cases missing : missingItem? result.1 engine.values with
      | some item =>
          rw [missing] at rejected
          cases rejected
          exact .unchanged rfl
      | none =>
          rw [missing] at rejected
          cases rejected

theorem validateField_rejects {operation : HostOperation}
    (rejected : (engine.validateField text).2 = .error rejection) :
    engine.Rejects operation rejection (engine.validateField text).1 := by
  unfold validateField at rejected ⊢
  cases found : engine.locate text with
  | error fault =>
      rw [found] at rejected
      cases rejected
      exact .unchanged (isBound_of_locate found)
  | ok result =>
      rw [found] at rejected
      cases rejected

theorem blur_rejects (rejected : (engine.blur text).2 = .error rejection) :
    engine.Rejects (.blur text) rejection (engine.blur text).1 := by
  unfold blur at rejected ⊢
  by_cases late : engine.trigger = .submit
  · rw [if_pos late] at rejected ⊢
    cases parsed : parsePath text with
    | error fault =>
        rw [parsed] at rejected
        cases rejected
        exact .unchanged (isBound_of_parsePath parsed)
    | ok path =>
        rw [parsed] at rejected
        cases rejected
  · rw [if_neg late] at rejected ⊢
    exact validateField_rejects rejected

theorem addItem_rejects (rejected : (engine.addItem text).2 = .error rejection) :
    engine.Rejects (.addItem text) rejection (engine.addItem text).1 := by
  unfold addItem at rejected ⊢
  cases found : engine.locate text with
  | error fault =>
      rw [found] at rejected
      cases rejected
      exact .unchanged (isBound_of_locate found)
  | ok result =>
      obtain ⟨path, node, place⟩ := result
      rw [found] at rejected
      cases node with
      | leaf field => cases rejected; exact .unchanged rfl
      | group head fields => cases rejected; exact .unchanged rfl
      | flow flow => cases rejected; exact .unchanged rfl
      | repeatable head template =>
          dsimp only at rejected ⊢
          cases limit : head.maxItemCount.filter fun most => most ≤ itemCount path engine.values with
          | none =>
              rw [limit] at rejected
              cases rejected
          | some most =>
              obtain ⟨bound, full⟩ := Option.filter_eq_some_iff.mp limit
              rw [limit] at rejected
              cases rejected
              exact .most found bound (of_decide_eq_true full)

theorem removeItem_rejects {index : Nat}
    (rejected : (engine.removeItem text index).2 = .error rejection) :
    engine.Rejects (.removeItem text index) rejection (engine.removeItem text index).1 := by
  unfold removeItem at rejected ⊢
  cases found : engine.locate text with
  | error fault =>
      rw [found] at rejected
      cases rejected
      exact .unchanged (isBound_of_locate found)
  | ok result =>
      obtain ⟨path, node, place⟩ := result
      rw [found] at rejected
      cases node with
      | leaf field => cases rejected; exact .unchanged rfl
      | group head fields => cases rejected; exact .unchanged rfl
      | flow flow => cases rejected; exact .unchanged rfl
      | repeatable head template =>
          dsimp only at rejected ⊢
          by_cases absent : itemCount path engine.values ≤ index
          · rw [if_pos absent] at rejected ⊢
            cases rejected
            exact .unchanged rfl
          · rw [if_neg absent] at rejected ⊢
            cases limit : head.minItems.filter fun least => itemCount path engine.values ≤ least with
            | none =>
                rw [limit] at rejected
                cases rejected
            | some least =>
                obtain ⟨bound, few⟩ := Option.filter_eq_some_iff.mp limit
                rw [limit] at rejected
                cases rejected
                exact .least found bound (of_decide_eq_true few)

theorem refreshOptions_rejects (rejected : (engine.refreshOptions text).2 = .error rejection) :
    engine.Rejects (.refreshOptions text) rejection (engine.refreshOptions text).1 := by
  unfold refreshOptions at rejected ⊢
  cases found : engine.locate text with
  | error fault =>
      rw [found] at rejected
      cases rejected
      exact .unchanged (isBound_of_locate found)
  | ok result =>
      rw [found] at rejected
      dsimp only at rejected
      split at rejected <;> cases rejected

theorem selectFlowStep_rejects {id value : String}
    (rejected : (engine.selectFlowStep text id value).2 = .error rejection) :
    engine.Rejects (.selectFlowStep text id value) rejection
      (engine.selectFlowStep text id value).1 := by
  unfold selectFlowStep at rejected ⊢
  cases found : engine.locate text with
  | error fault =>
      rw [found] at rejected
      cases rejected
      exact .unchanged (isBound_of_locate found)
  | ok result =>
      obtain ⟨path, node, place⟩ := result
      rw [found] at rejected
      cases node with
      | leaf field => cases rejected; exact .unchanged rfl
      | group head fields => cases rejected; exact .unchanged rfl
      | repeatable head template => cases rejected; exact .unchanged rfl
      | flow flow =>
          obtain ⟨state, present⟩ :=
            Option.isSome_iff_exists.mp (engine.syncFlow_flow ⟨path, flow, place⟩)
          dsimp only at rejected present
          rw [present] at rejected
          dsimp only at rejected
          split at rejected <;> cases rejected

theorem perform_rejects {operation : HostOperation}
    (rejected : (engine.perform operation).2.rejection? = some rejection) :
    engine.Rejects operation rejection (engine.perform operation).1 := by
  have refused {α : Type} {result : Except FormError α} {answer : Except FormError α → HostAnswer}
      (told : (answer result).rejection? = some rejection)
      (done : ∀ value, (answer (.ok value)).rejection? = none)
      (refuses : ∀ fault, (answer (.error fault)).rejection? = some fault) :
      result = .error rejection := by
    cases result with
    | ok value =>
        rw [done] at told
        cases told
    | error fault =>
        rw [refuses] at told
        rw [Option.some.inj told]
  cases operation with
  | setValue text value => exact setValue_rejects (refused rejected (fun _ => rfl) fun _ => rfl)
  | blur text => exact blur_rejects (refused rejected (fun _ => rfl) fun _ => rfl)
  | validateField text => exact validateField_rejects (refused rejected (fun _ => rfl) fun _ => rfl)
  | addItem text => exact addItem_rejects (refused rejected (fun _ => rfl) fun _ => rfl)
  | removeItem text index =>
      exact removeItem_rejects (refused rejected (fun _ => rfl) fun _ => rfl)
  | selectFlowStep text id value =>
      exact selectFlowStep_rejects (refused rejected (fun _ => rfl) fun _ => rfl)
  | refreshOptions text =>
      exact refreshOptions_rejects (refused rejected (fun _ => rfl) fun _ => rfl)
  | validateAll => cases rejected
  | validateStep => cases rejected
  | nextStep => cases rejected
  | previousStep => cases rejected
  | toggleDropdown key => cases rejected
  | closeDropdowns => cases rejected
  | togglePassword key => cases rejected
  | reset => cases rejected
  | submit handler => cases rejected

/-! ### Choices that are not open -/

/-- A choice that is not applied leaves an engine alone where the flow has a state. -/
theorem selectFlowStep_ignored {id value : String} {state : FlowState} {selection : FlowSelection}
    (isThere : engine.flowState? text = some state)
    (answered : (engine.selectFlowStep text id value).2 = .ok selection)
    (ignored : ∀ change, selection ≠ .applied change) :
    (engine.selectFlowStep text id value).1 = engine := by
  have reached := engine.selectFlowStep_choice text id value
  generalize engine.selectFlowStep text id value = result at reached answered ⊢
  cases reached with
  | refused rejection => rfl
  | applied found starts present isStep enabled chosen tickets output =>
      exact absurd (Except.ok.inj answered).symm (ignored _)
  | @ignored path flow place started current found starts present =>
      rw [flowState?, (locate_eq_ok found).1] at isThere
      have same : engine.syncFlow ⟨path, flow, place⟩ = engine := by
        unfold syncFlow
        dsimp only at isThere ⊢
        rw [isThere]
      rw [starts, same] at present ⊢
      have kept : engine.store.flows.put path.text current = engine.store.flows :=
        Keyed.put_eq_self present
      exact congrArg (fun flows => { engine with store := { engine.store with flows } }) kept

/-- An operation that is rejected changes nothing, but that the bounds of a repeatable record why
they do not allow it; and a choice that is not open changes nothing either, if the flow has a
state. -/
theorem rejected_leaves_engine (engine : Engine) :
    (∀ operation rejection, (engine.perform operation).2.rejection? = some rejection →
      engine.Rejects operation rejection (engine.perform operation).1) ∧
    ∀ text id value state, engine.flowState? text = some state →
      (engine.selectFlowStep text id value).2 = .ok .locked ∨
        (engine.selectFlowStep text id value).2 = .ok .unknownStep →
      (engine.selectFlowStep text id value).1 = engine := by
  refine ⟨fun operation rejection => perform_rejects, fun text id value state isThere answered => ?_⟩
  rcases answered with locked | unknown
  · exact selectFlowStep_ignored isThere locked fun _ other => nomatch other
  · exact selectFlowStep_ignored isThere unknown fun _ other => nomatch other

end Engine

namespace Session

def noOrders : Engine.Mounting :=
  .ofFields [.repeatable { Repeatable.named "orders" with maxItems := some 0 } [], .flow placeFlow]
    (.object [])

/-- No order is added, and no city is chosen before a country is. -/
theorem noOrders_rejects :
    (mount noOrders).engine.Rejects (.addItem "orders") (.itemLimit "orders" 0)
        ((mount noOrders).engine.perform (.addItem "orders")).1 ∧
      ((mount noOrders).engine.selectFlowStep "place" "city" "Rome").1 =
        (mount noOrders).engine := by
  have full : ((mount noOrders).engine.perform (.addItem "orders")).2.rejection? =
      some (.itemLimit "orders" 0) := by decide +kernel
  have started : ((mount noOrders).engine.flowState? "place").isSome = true := by decide +kernel
  have locked : ((mount noOrders).engine.selectFlowStep "place" "city" "Rome").2 = .ok .locked := by
    decide +kernel
  generalize (mount noOrders).engine = engine at *
  obtain ⟨state, isThere⟩ := Option.isSome_iff_exists.mp started
  obtain ⟨rejects, ignored⟩ := engine.rejected_leaves_engine
  exact ⟨rejects _ _ full, ignored _ _ _ state isThere (Or.inl locked)⟩

end Session

end DeclarativeForm
