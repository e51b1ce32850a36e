import DeclarativeForm.Proofs.Wizard.Gate
import Mathlib.Data.List.Nodup

/-!
The steps of a wizard against the whole of it. Every step is validated by a walk of its own, over
the nodes that are found by the names it lists, in the order and as often as it lists them. With
good names and sections that no two share a name, a name of a top-level node finds that node and no
other. If the steps list all top-level nodes, the errors of the form are those of its steps.
-/

set_option autoImplicit false

namespace DeclarativeForm

def HasDistinctSections (fields : List Node) : Prop :=
  (((spread fields).filter Node.isGroup).map Node.name).Nodup

instance (fields : List Node) : Decidable (HasDistinctSections fields) :=
  inferInstanceAs (Decidable (List.Nodup _))

structure Form.IsCovered (form : Form) : Prop where
  topLevel : ∀ step ∈ form.steps, ∀ name ∈ step.fields, ∃ node ∈ form.fields, node.name = name
  whole : ∀ node ∈ form.fields, ∃ step ∈ form.steps, node.name ∈ step.fields

/-! ### Top-level nodes by name -/

theorem subset_spread (fields : List Node) : fields ⊆ spread fields := by
  induction fields with
  | nil => exact List.Subset.refl _
  | cons node rest ih =>
      rw [spread]
      exact List.cons_subset.mpr ⟨List.mem_append_left _ node.mem_spread_self,
        List.Subset.trans ih (List.subset_append_right _ _)⟩

section Names

variable {fields : List Node} (named : WellNamed fields) (distinct : HasDistinctSections fields)

include named distinct

private theorem distinct_names : ((spread fields).map Node.name).Nodup := by
  have told := of_decide_eq_true named.unshared
  have sections := List.pairwise_filter.mp (List.pairwise_map.mp distinct)
  refine List.pairwise_map.mpr ((told.and sections).imp fun {node other} both same => ?_)
  -- Two nodes of one name would both be sections, and these have different names.
  have groups : node.isGroup = true ∧ other.isGroup = true := by
    simpa [Node.isToldFrom, same] using both.1
  exact both.2 groups.1 groups.2 same

theorem findByName_topLevel {node : Node} (member : node ∈ fields) :
    findByName node.name fields = some node := by
  have isSpread := subset_spread fields member
  cases found : findByName node.name fields with
  | none =>
      rw [findByName_eq, List.find?_eq_none] at found
      exact absurd (decide_eq_true rfl) (found node isSpread)
  | some peer =>
      obtain ⟨isPeer, same⟩ := mem_spread_of_findByName found
      exact congrArg some
        (List.inj_on_of_nodup_map (distinct_names named distinct) isPeer isSpread same)

/-- A step that lists names of top-level nodes has no other nodes than these. -/
theorem resolveStep_subset {names : List String}
    (topLevel : ∀ name ∈ names, ∃ node ∈ fields, node.name = name) :
    resolveStep fields names ⊆ fields := by
  intro node member
  obtain ⟨name, isName, found⟩ := List.mem_filterMap.mp member
  obtain ⟨peer, isPeer, rfl⟩ := topLevel name isName
  rw [findByName_topLevel named distinct isPeer] at found
  exact Option.some.inj found ▸ isPeer

theorem mem_resolveStep {names : List String} {node : Node} (member : node ∈ fields)
    (listed : node.name ∈ names) : node ∈ resolveStep fields names :=
  List.mem_filterMap.mpr ⟨node.name, listed, findByName_topLevel named distinct member⟩

end Names

/-! ### Errors of some top-level nodes -/

theorem mem_walk_iff {reach : Reach} {values : Json} {context : Context} {nodes : List Node}
    {visit : Visit} : visit ∈ walk reach values context nodes ↔
      ∃ node ∈ nodes, visit ∈ Node.walk reach values context node := by
  induction nodes with
  | nil => simp only [walk, List.not_mem_nil, false_and, exists_false]
  | cons node rest ih => rw [walk, List.mem_append, ih, List.exists_mem_cons_iff]

theorem walk_mono {reach : Reach} {values : Json} {context : Context} {nodes fields : List Node}
    (within : nodes ⊆ fields) :
    walk reach values context nodes ⊆ walk reach values context fields :=
  fun _ member =>
    let ⟨node, isNode, visited⟩ := mem_walk_iff.mp member
    mem_walk_iff.mpr ⟨node, within isNode, visited⟩

namespace Snapshot

variable {snapshot : Snapshot} {fields nodes : List Node} {key message : String}

theorem exists_reports_of_find? (found : (snapshot.validateNodes nodes).find? key = some message) :
    ∃ visit ∈ walk .visible snapshot.values .root nodes, snapshot.Reports visit key message :=
  let ⟨visit, visited, isError⟩ := List.mem_flatMap.mp (Keyed.mem_of_find?_ofList found)
  ⟨visit, visited, mem_errorsOf_iff.mp isError⟩

variable (named : WellNamed fields) (within : nodes ⊆ fields)

include named within

/-- Under a key of a node that some of the top-level nodes lead to, these have the error that the
whole form has. -/
theorem find?_validateNodes_eq {visit : Visit}
    (visited : visit ∈ walk .visible snapshot.values .root nodes)
    (reports : snapshot.Reports visit key message) :
    (snapshot.validateNodes nodes).find? key = (snapshot.validateAll fields).find? key := by
  have inForm := walk_mono within visited
  have everywhere := (walk_sublist snapshot.values .root fields).subset
  have addresses := (addresses_of_mem_walk named (everywhere inForm) reports.single).1
  rw [find?_validateAll_of_visited named addresses reports.single inForm reports.mem_keysOf]
  refine Keyed.find?_ofList_flatMap visited fun other isOther holds => ?_
  obtain ⟨entry, isEntry, rfl⟩ := List.mem_map.mp holds
  have others := mem_errorsOf_iff.mp isEntry
  have there := (addresses_of_mem_walk named (everywhere (walk_mono within isOther))
    others.single).1
  obtain ⟨samePath, sameNode⟩ := addresses.eq_of_shared_key there named reports.single
    others.single reports.mem_keysOf others.mem_keysOf
  obtain ⟨node, path, context⟩ := visit
  obtain ⟨peer, otherPath, otherContext⟩ := other
  cases samePath
  cases sameNode
  rfl

theorem find?_validateAll_of_validateNodes
    (found : (snapshot.validateNodes nodes).find? key = some message) :
    (snapshot.validateAll fields).find? key = some message := by
  obtain ⟨visit, visited, reports⟩ := exists_reports_of_find? found
  rw [← find?_validateNodes_eq named within visited reports, found]

end Snapshot

/-! ### Wizards -/

/-- The errors of a wizard are those of its steps, whatever their order and however often a node is
listed. A wizard without errors on any step has no errors and can be submitted. -/
theorem Form.validateAll_iff_steps (form : Form) (snapshot : Snapshot)
    (named : WellNamed form.fields) (distinct : HasDistinctSections form.fields)
    (covered : form.IsCovered) :
    (∀ key message, (snapshot.validateAll form.fields).find? key = some message ↔
      ∃ step ∈ form.steps,
        (snapshot.validateNodes (resolveStep form.fields step.fields)).find? key = some message) ∧
    ((∀ step ∈ form.steps, snapshot.validateNodes (resolveStep form.fields step.fields) = []) →
      snapshot.validateAll form.fields = []) := by
  have union (key message : String) :
      (snapshot.validateAll form.fields).find? key = some message ↔ ∃ step ∈ form.steps,
        (snapshot.validateNodes (resolveStep form.fields step.fields)).find? key =
          some message := by
    constructor
    · intro found
      obtain ⟨visit, visited, reports⟩ := Snapshot.exists_reports_of_find? found
      obtain ⟨node, isNode, inNode⟩ := mem_walk_iff.mp visited
      obtain ⟨step, isStep, listed⟩ := covered.whole node isNode
      refine ⟨step, isStep, ?_⟩
      have onStep := mem_walk_iff.mpr ⟨node, mem_resolveStep named distinct isNode listed, inNode⟩
      rw [Snapshot.find?_validateNodes_eq named
        (resolveStep_subset named distinct (covered.topLevel step isStep)) onStep reports, found]
    · rintro ⟨step, isStep, found⟩
      exact Snapshot.find?_validateAll_of_validateNodes named
        (resolveStep_subset named distinct (covered.topLevel step isStep)) found
  refine ⟨union, fun clean => List.eq_nil_iff_forall_not_mem.mpr fun entry member => ?_⟩
  have found := Keyed.find?_of_mem (Keyed.distinct_ofList _) member
  obtain ⟨step, isStep, onStep⟩ := (union entry.1 entry.2).mp found
  rw [clean step isStep] at onStep
  cases onStep

/-- A wizard whose second step lists all of its nodes, those of the first step once more. -/
def coveredWizard : Form :=
  { cityWizard.form with
    steps := [⟨"where", "Where", none, ["details"]⟩,
      ⟨"all", "All", none, ["contacts", "details"]⟩] }

/-- The missing city is an error of the form because it is one of the first step. -/
theorem coveredWizard_requires_city :
    (Snapshot.mk (.object []) .empty []).validateAll coveredWizard.fields ≠ [] := by
  have named : WellNamed coveredWizard.fields := by decide +kernel
  have distinct : HasDistinctSections coveredWizard.fields := by decide +kernel
  have covered : coveredWizard.IsCovered := ⟨by decide +kernel, by decide +kernel⟩
  obtain ⟨union, _⟩ := coveredWizard.validateAll_iff_steps
    (Snapshot.mk (.object []) .empty []) named distinct covered
  have found := (union "city" "City is required").mpr
    ⟨⟨"where", "Where", none, ["details"]⟩, List.mem_cons_self, by decide +kernel⟩
  intro nothing
  rw [nothing] at found
  cases found

end DeclarativeForm
