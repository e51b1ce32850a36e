import DeclarativeForm.Proofs.Fetch.Session
import DeclarativeForm.Proofs.Tree.Exposure
import DeclarativeForm.Proofs.Tree.Inventory
import DeclarativeForm.Proofs.Validation.Owner

/-!
What validation of a whole form finds. An error is derived by going down from the root, through
sections and items that are shown, to a node that is shown and reports it. With good names, and with
distinct steps in every flow, the errors of a form are those that are derived, none of which hides
another.
-/

set_option autoImplicit false

namespace DeclarativeForm

variable {fields : List Node}

def DistinctSteps (fields : List Node) : Prop :=
  ∀ node ∈ everyNode fields, node.HasDistinctSteps

instance (node : Node) : Decidable node.HasDistinctSteps :=
  match node with
  | .flow field => inferInstanceAs (Decidable (field.steps.map FlowStep.id).Nodup)
  | .leaf _ => .isTrue trivial
  | .group _ _ => .isTrue trivial
  | .repeatable _ _ => .isTrue trivial

instance (fields : List Node) : Decidable (DistinctSteps fields) :=
  inferInstanceAs (Decidable (∀ node ∈ everyNode fields, node.HasDistinctSteps))

theorem Visit.IsVisible.mem_walk {values : Json} {context : Context} {visit : Visit}
    (isVisible : visit.IsVisible values fields context) :
    visit ∈ walk .everything values context fields :=
  (walk_sublist values context fields).subset (mem_walk_visible_iff.mpr isVisible)

/-- The errors of a form are what its visible nodes report, each under its key. -/
theorem Snapshot.validateAll_iff_reported (named : WellNamed fields) (distinct : DistinctSteps fields)
    (snapshot : Snapshot) (key message : String) :
    (snapshot.validateAll fields).find? key = some message ↔
      ∃ visit : Visit, visit.IsVisible snapshot.values fields .root ∧
        snapshot.Reports visit key message := by
  constructor
  · intro found
    obtain ⟨visit, member, isError⟩ := List.mem_flatMap.mp (Keyed.mem_of_find?_ofList found)
    exact ⟨visit, mem_walk_visible_iff.mp member, mem_errorsOf_iff.mp isError⟩
  · rintro ⟨visit, isVisible, reports⟩
    have own : Keyed.Distinct (snapshot.errorsOf visit) :=
      distinct_errorsOf (distinct visit.node (mem_everyNode_of_mem_walk fields isVisible.mem_walk))
    have addresses := (addresses_of_mem_walk named isVisible.mem_walk reports.single).1
    have decided : (snapshot.validateAll fields).find? key =
        Keyed.find? key (Keyed.ofList (snapshot.errorsOf visit)) :=
      find?_validateAll_of_visited named addresses reports.single
        (mem_walk_visible_iff.mpr isVisible) reports.mem_keysOf
    rw [decided, Keyed.ofList_eq_self own]
    exact Keyed.find?_of_mem own (mem_errorsOf_iff.mpr reports)

def cityStep : FlowStep :=
  ⟨"city", "City", none, none, .dependingOn ["country"],
    some ⟨some ⟨.bool true, ""⟩, none, none, none, none, none, none⟩⟩

def placeFlow : Flow where
  name := "place"
  label := none
  helpText := none
  validation := none
  showWhen := none
  steps := [⟨"country", "Country", none, none, .dependingOn [], none⟩, cityStep]
  outputStepId := "city"
  showAllSteps := false

def orderFields : List Node :=
  [.group ⟨"orders", none, none, none, false, false, none, none⟩
    [.repeatable (.named "sent") [.flow placeFlow]]]

/-- The second order lacks a city, which is found under the key of the step. -/
theorem secondOrder_lacksCity :
    let snapshot : Snapshot := ⟨.object [("sent", .array [.object [], .object []])], .empty, []⟩
    (snapshot.validateAll orderFields).find? "sent[1].place.city" = some "City is required" := by
  intro snapshot
  have named : WellNamed orderFields := by decide +kernel
  have distinct : DistinctSteps orderFields := by decide +kernel
  let order := (FieldPath.key "sent").item 1
  let visit : Visit := ⟨.flow placeFlow, order.child "place", ⟨order, [order]⟩⟩
  have exposed : Exposed snapshot.values orderFields .root visit.node visit.context := by
    refine .inSection (List.mem_singleton_self _) rfl ?_
    refine .inItem (List.mem_singleton_self _) rfl ?_ (.here (List.mem_singleton_self _))
    decide +kernel
  have unmet : cityStep.requiredError? (snapshot.stepValue visit.path cityStep.id) =
      some "City is required" := by decide +kernel
  have reports : snapshot.Reports visit (visit.path.text ++ "." ++ cityStep.id)
      "City is required" := .step (List.mem_cons_of_mem _ (List.mem_singleton_self _)) unmet
  have key : visit.path.text ++ "." ++ cityStep.id = "sent[1].place.city" := by decide +kernel
  rw [key] at reports
  exact (Snapshot.validateAll_iff_reported named distinct snapshot _ _).mpr
    ⟨visit, ⟨exposed, rfl, rfl⟩, reports⟩

end DeclarativeForm
