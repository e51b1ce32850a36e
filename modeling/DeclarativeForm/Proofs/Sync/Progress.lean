import DeclarativeForm.Proofs.Sync.Settled
import DeclarativeForm.Proofs.Tree.Inventory

/-!
The progress of passes. When nothing hides the fields that are fed by sources, every pass leaves as
many bindings as there were, and one that tells of a change leaves fewer of them to be cleared.
-/

set_option autoImplicit false

namespace DeclarativeForm

open FieldPath

namespace Engine

def isFilled (values : Json) (visit : Visit) : Bool :=
  match visit.node with
  | .leaf field =>
    field.optionsSource.isSome && !isCleared (visit.path.get? values) field.clearedValue
  | _ => false

def filled (engine : Engine) : Nat :=
  engine.bindings.countP fun binding => !binding.isCleared engine.values

private theorem countP_lt {α : Type} {fewer more : α → Bool} {items : List α}
    (weaker : ∀ item ∈ items, fewer item = true → more item = true)
    (strict : ∃ item ∈ items, fewer item = false ∧ more item = true) :
    items.countP fewer < items.countP more := by
  induction items with
  | nil =>
      obtain ⟨_, member, _⟩ := strict
      cases member
  | cons first rest ih =>
      have restWeaker := fun item member => weaker item (List.mem_cons_of_mem _ member)
      have atMost := List.countP_mono_left restWeaker
      have here := weaker first List.mem_cons_self
      rw [List.countP_cons, List.countP_cons]
      obtain ⟨item, member, isNot, isMore⟩ := strict
      rcases List.mem_cons.mp member with rfl | later
      · rw [isNot, isMore, if_neg Bool.false_ne_true, if_pos rfl]
        omega
      · have less := ih restWeaker ⟨item, later, isNot, isMore⟩
        cases isFewer : fewer first with
        | false =>
            rw [if_neg Bool.false_ne_true]
            omega
        | true =>
            rw [here isFewer]
            omega

private theorem isFilled_eq (values : Json) (visit : Visit) :
    ((visit.binding? values).map fun binding => !binding.isCleared values).getD false =
      isFilled values visit := by
  obtain ⟨node, path, context⟩ := visit
  cases node with
  | leaf field =>
      cases source : field.optionsSource with
      | none => simp [Visit.binding?, isFilled, source]
      | some source => simp [Visit.binding?, isFilled, source, OptionBinding.isCleared]
  | group head fields => rfl
  | repeatable head template => rfl
  | flow field => rfl

private theorem isSome_binding? (values : Json) (visit : Visit) :
    (visit.binding? values).isSome = visit.node.isFed := by
  obtain ⟨node, path, context⟩ := visit
  cases node with
  | leaf field => exact Option.isSome_map
  | group head fields => rfl
  | repeatable head template => rfl
  | flow field => rfl

private theorem filled_eq {engine : Engine} (shown : AlwaysShown engine.form.fields) :
    engine.filled =
      (walk .everything engine.values .root engine.form.fields).countP
        (isFilled engine.values) := by
  rw [filled, bindings, optionBindings_eq_everything shown, List.countP_filterMap]
  exact List.countP_congr fun visit _ => by rw [isFilled_eq]

private theorem length_bindings_eq {engine : Engine} (shown : AlwaysShown engine.form.fields) :
    engine.bindings.length =
      (walk .everything engine.values .root engine.form.fields).countP fun visit =>
        visit.node.isFed := by
  rw [bindings, optionBindings_eq_everything shown, List.length_filterMap_eq_countP]
  exact List.countP_congr fun visit _ => by rw [isSome_binding?]

namespace Passed

variable {engine after : Engine} {cleared : List OptionBinding} {changed : Bool}

theorem length_bindings (passed : engine.Passed cleared after changed)
    (shown : AlwaysShown engine.form.fields) : after.bindings.length = engine.bindings.length := by
  have shownAfter : AlwaysShown after.form.fields := by
    rw [passed.form]
    exact shown
  rw [length_bindings_eq shown, length_bindings_eq shownAfter, passed.form, passed.within.shape]

theorem filled_lt (passed : engine.Passed cleared after changed)
    (named : WellNamed engine.form.fields) (shown : AlwaysShown engine.form.fields)
    (told : changed = true) : after.filled < engine.filled := by
  have shownAfter : AlwaysShown after.form.fields := by
    rw [passed.form]
    exact shown
  rw [filled_eq shown, filled_eq shownAfter, passed.form, passed.within.shape]
  apply countP_lt
  · intro visit member filled
    obtain ⟨node, path, place⟩ := visit
    cases node with
    | leaf field =>
        have addresses := (addresses_of_mem_walk named member rfl).1
        simp only [isFilled, Bool.and_eq_true, Bool.not_eq_true'] at filled ⊢
        refine ⟨filled.1, eq_false_of_ne_true fun wasCleared => ?_⟩
        rw [passed.within.kept path field place addresses wasCleared] at filled
        exact Bool.noConfusion filled.2
    | group head inner => cases filled
    | repeatable head template => cases filled
    | flow field => cases filled
  · obtain ⟨binding, member, wasFilled, isCleared⟩ := passed.progress told
    obtain ⟨place, isAt⟩ := isAt_of_mem (passed.subset binding member)
    have before : Engine.isCleared (binding.path.get? engine.values)
      binding.field.clearedValue = false := wasFilled
    have later : Engine.isCleared (binding.path.get? after.values)
      binding.field.clearedValue = true := isCleared
    refine ⟨_, isAt.visited, ?_, ?_⟩
    · simp only [isFilled, isAt.source, later, Option.isSome_some, Bool.not_true, Bool.and_false]
    · simp only [isFilled, isAt.source, before, Option.isSome_some, Bool.not_false, Bool.and_true]

end Passed

end Engine

end DeclarativeForm
