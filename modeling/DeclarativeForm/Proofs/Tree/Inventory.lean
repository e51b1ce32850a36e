import DeclarativeForm.Proofs.Tree.Binding
import Mathlib.Data.List.Basic

/-!
All nodes of a form, at any depth. When nothing hides the leaves that are fed by sources, a walk
over what is visible comes to as many of them as a walk over everything.
-/

set_option autoImplicit false

namespace DeclarativeForm

mutual

def Node.everyNode : Node → List Node
  | .leaf field => [.leaf field]
  | .group head fields => .group head fields :: everyNode fields
  | .repeatable head template => .repeatable head template :: everyNode template
  | .flow field => [.flow field]
termination_by structural node => node

def everyNode : List Node → List Node
  | [] => []
  | node :: rest => Node.everyNode node ++ everyNode rest
termination_by structural nodes => nodes

end

namespace Node

def entries : Node → List String
  | leaf field =>
    match field.optionsSource with
    | some source => source.dependencies ++ source.params
    | none => []
  | _ => []

def isFed : Node → Bool
  | leaf field => field.optionsSource.isSome
  | _ => false

def isRepeatable : Node → Bool
  | repeatable _ _ => true
  | _ => false

def holdsFed (node : Node) : Bool := (everyNode node).any isFed

end Node

def AlwaysShown (fields : List Node) : Prop :=
  ∀ node ∈ everyNode fields, node.holdsFed = true → node.showWhen = none

instance (fields : List Node) : Decidable (AlwaysShown fields) :=
  inferInstanceAs (Decidable (∀ node ∈ everyNode fields, _))

/-! ### Membership -/

mutual

private theorem Node.everyNode_of_spread {peer found : Node} (inside : found ∈ peer.everyNode) :
    ∀ node : Node, peer ∈ Node.spread node → found ∈ Node.everyNode node
  | .group head fields, member => by
      rcases List.mem_cons.mp member with same | later
      · exact same ▸ inside
      · exact List.mem_cons_of_mem _ (everyNode_of_spread inside fields later)
  | .leaf field, member => List.mem_singleton.mp member ▸ inside
  | .repeatable head template, member => List.mem_singleton.mp member ▸ inside
  | .flow field, member => List.mem_singleton.mp member ▸ inside

theorem everyNode_of_spread {peer found : Node} (inside : found ∈ peer.everyNode) :
    ∀ fields : List Node, peer ∈ spread fields → found ∈ everyNode fields
  | [], member => nomatch member
  | node :: rest, member => by
      rcases List.mem_append.mp member with here | later
      · exact List.mem_append_left _ (Node.everyNode_of_spread inside node here)
      · exact List.mem_append_right _ (everyNode_of_spread inside rest later)

end

theorem Node.mem_everyNode_self (node : Node) : node ∈ node.everyNode := by
  cases node <;> exact List.mem_cons_self

theorem mem_everyNode_of_findByName {name : String} {fields : List Node} {node : Node}
    (found : findByName name fields = some node) : node ∈ everyNode fields :=
  everyNode_of_spread node.mem_everyNode_self fields (mem_spread_of_findByName found).1

theorem everyNode_template_subset {name : String} {fields template : List Node}
    {head : Repeatable} (found : findByName name fields = some (.repeatable head template)) :
    everyNode template ⊆ everyNode fields := fun _ member =>
  everyNode_of_spread (List.mem_cons_of_mem _ member) fields (mem_spread_of_findByName found).1

theorem Addresses.mem_everyNode {fields : List Node} {context : Context}
    {segments : List Segment} {located : Located}
    (addresses : Addresses fields context segments located) :
    located.node ∈ everyNode fields := by
  induction addresses with
  | here found => exact mem_everyNode_of_findByName found
  | inside found _ ih => exact everyNode_template_subset found ih

mutual

private theorem Node.mem_everyNode_of_mem_walk {reach : Reach} {values : Json} {visit : Visit}
    {context : Context} : ∀ node : Node, visit ∈ Node.walk reach values context node →
      visit.node ∈ Node.everyNode node
  | .leaf field, member => by
      rw [Node.walk] at member
      split at member
      · exact List.mem_singleton.mp member ▸ List.mem_cons_self
      · cases member
  | .group head fields, member => by
      rw [Node.walk] at member
      split at member
      · rcases List.mem_cons.mp member with rfl | later
        · exact List.mem_cons_self
        · exact List.mem_cons_of_mem _ (mem_everyNode_of_mem_walk fields later)
      · cases member
  | .repeatable head template, member => by
      rw [Node.walk] at member
      split at member
      · rcases List.mem_cons.mp member with rfl | later
        · exact List.mem_cons_self
        · obtain ⟨index, _, inItem⟩ := List.mem_flatMap.mp later
          exact List.mem_cons_of_mem _ (mem_everyNode_of_mem_walk template inItem)
      · cases member
  | .flow field, member => by
      rw [Node.walk] at member
      split at member
      · exact List.mem_singleton.mp member ▸ List.mem_cons_self
      · cases member

theorem mem_everyNode_of_mem_walk {reach : Reach} {values : Json} {visit : Visit}
    {context : Context} : ∀ nodes : List Node, visit ∈ walk reach values context nodes →
      visit.node ∈ everyNode nodes
  | [], member => nomatch member
  | node :: rest, member => by
      rcases List.mem_append.mp member with here | later
      · exact List.mem_append_left _ (Node.mem_everyNode_of_mem_walk node here)
      · exact List.mem_append_right _ (mem_everyNode_of_mem_walk rest later)

end

/-! ### Fed leaves are visited -/

theorem binding?_eq_none {visit : Visit} {values : Json} (unfed : visit.node.isFed = false) :
    visit.binding? values = none := by
  obtain ⟨node, path, context⟩ := visit
  cases node with
  | leaf field =>
      have nothing : field.optionsSource = none := Option.isNone_iff_eq_none.mp (by
        rw [← Option.not_isSome, show field.optionsSource.isSome = false from unfed]
        rfl)
      simp only [Visit.binding?, nothing, Option.map_none]
  | group head fields => rfl
  | repeatable head template => rfl
  | flow field => rfl

private theorem filterMap_binding?_eq_nil {reach : Reach} {values data : Json} {context : Context}
    {node : Node} (unfed : node.holdsFed = false) :
    (Node.walk reach values context node).filterMap (Visit.binding? data) = [] := by
  rw [List.filterMap_eq_nil_iff]
  intro visit member
  apply binding?_eq_none
  have inside := Node.mem_everyNode_of_mem_walk node member
  exact eq_false_of_ne_true (List.any_eq_false.mp unfed visit.node inside)

private theorem unfed_of_hidden {values : Json} {context : Context} {node : Node}
    (shown : node.holdsFed = true → node.showWhen = none)
    (hidden : ¬Reach.visible.admits values context node.showWhen = true) :
    node.holdsFed = false := by
  refine eq_false_of_ne_true fun fed => hidden ?_
  rw [shown fed]
  rfl

mutual

private theorem Node.filterMap_walk_visible {values data : Json} {context : Context} :
    ∀ node : Node, (∀ inner ∈ Node.everyNode node, inner.holdsFed = true → inner.showWhen = none) →
      (Node.walk .visible values context node).filterMap (Visit.binding? data) =
        (Node.walk .everything values context node).filterMap (Visit.binding? data)
  | .leaf field, shown => by
      by_cases admitted : Reach.visible.admits values context field.showWhen = true
      · rw [Node.walk, Node.walk, if_pos (admits_everything _ _ _), if_pos admitted]
      · have unfed := unfed_of_hidden (shown (.leaf field) List.mem_cons_self) admitted
        rw [filterMap_binding?_eq_nil unfed, filterMap_binding?_eq_nil unfed]
  | .group head fields, shown => by
      by_cases admitted : Reach.visible.admits values context head.showWhen = true
      · rw [Node.walk, Node.walk, if_pos (admits_everything _ _ _), if_pos admitted,
          List.filterMap_cons_none rfl, List.filterMap_cons_none rfl]
        exact filterMap_walk_visible fields fun inner member =>
          shown inner (List.mem_cons_of_mem _ member)
      · have unfed := unfed_of_hidden (shown (.group head fields) List.mem_cons_self) admitted
        rw [filterMap_binding?_eq_nil unfed, filterMap_binding?_eq_nil unfed]
  | .repeatable head template, shown => by
      by_cases admitted : Reach.visible.admits values context head.showWhen = true
      · rw [Node.walk, Node.walk, if_pos (admits_everything _ _ _), if_pos admitted,
          List.filterMap_cons_none rfl, List.filterMap_cons_none rfl, List.filterMap_flatMap,
          List.filterMap_flatMap]
        exact List.flatMap_congr fun index _ => filterMap_walk_visible template fun inner member =>
          shown inner (List.mem_cons_of_mem _ member)
      · have here := shown (.repeatable head template) List.mem_cons_self
        have unfed := unfed_of_hidden here admitted
        rw [filterMap_binding?_eq_nil unfed, filterMap_binding?_eq_nil unfed]
  | .flow field, _ => by
      rw [filterMap_binding?_eq_nil rfl, filterMap_binding?_eq_nil rfl]

private theorem filterMap_walk_visible {values data : Json} {context : Context} :
    ∀ nodes : List Node,
      (∀ inner ∈ everyNode nodes, inner.holdsFed = true → inner.showWhen = none) →
      (walk .visible values context nodes).filterMap (Visit.binding? data) =
        (walk .everything values context nodes).filterMap (Visit.binding? data)
  | [], _ => rfl
  | node :: rest, shown => by
      rw [walk, walk, List.filterMap_append, List.filterMap_append]
      rw [Node.filterMap_walk_visible node fun inner member =>
          shown inner (List.mem_append_left _ member),
        filterMap_walk_visible rest fun inner member =>
          shown inner (List.mem_append_right _ member)]

end

variable {fields : List Node} {values : Json}

/-- When nothing hides the leaves that are fed, all of them have bindings. -/
theorem optionBindings_eq_everything (shown : AlwaysShown fields) (values : Json) :
    optionBindings fields values =
      (walk .everything values .root fields).filterMap (Visit.binding? values) :=
  filterMap_walk_visible fields shown

theorem OptionBinding.IsAt.mem {binding : OptionBinding} {place : Context}
    (isAt : binding.IsAt fields values place) (shown : AlwaysShown fields) :
    binding ∈ optionBindings fields values := by
  rw [optionBindings_eq_everything shown]
  refine List.mem_filterMap.mpr ⟨_, isAt.visited, ?_⟩
  simp only [Visit.binding?, isAt.source, Option.map_some, ← isAt.args]

end DeclarativeForm
