import DeclarativeForm.Proofs.Path.Frame
import DeclarativeForm.Proofs.Tree.Namespace
import DeclarativeForm.Tree.Locate
import DeclarativeForm.Tree.Walk
import Mathlib.Data.List.Basic
import Mathlib.Data.List.Flatten

/-!
Addresses of nodes. With good names the path of every visit of a walk addresses the node that is
visited, and all its items are there. The path of a leaf is apart from that of any other node,
except for the repeatables around it; so an edit of a leaf changes neither the other leaves nor the
shape of the form.
-/

set_option autoImplicit false

namespace DeclarativeForm

open FieldPath

/-- What segments address among the nodes of a list. -/
inductive Addresses : List Node → Context → List Segment → Located → Prop
  | here {fields : List Node} {context : Context} {name : String} {node : Node}
      (found : findByName name fields = some node) :
      Addresses fields context [.key name] ⟨node, context⟩
  | inside {fields template : List Node} {context : Context} {name : String} {head : Repeatable}
      {position : Nat} {rest : List Segment} {located : Located}
      (found : findByName name fields = some (.repeatable head template))
      (later : Addresses template (context.enterItem (context.pathFor head.name) position) rest
        located) :
      Addresses fields context (.key name :: .index position :: rest) located

theorem addresses_of_locateFrom {fields : List Node} {context : Context}
    {segments : List Segment} {located : Located}
    (done : locateFrom fields context segments = some located) :
    Addresses fields context segments located := by
  fun_induction locateFrom fields context segments
  case case1 =>
    obtain ⟨node, found, rfl⟩ := Option.map_eq_some_iff.mp done
    exact .here found
  case case2 found ih => exact .inside found (ih done)
  all_goals cases done

namespace Addresses

variable {fields : List Node} {context : Context} {segments one two : List Segment}
  {located : Located}

theorem locateFrom (addresses : Addresses fields context segments located) :
    DeclarativeForm.locateFrom fields context segments = some located := by
  induction addresses with
  | here found => rw [DeclarativeForm.locateFrom, found, Option.map_some]
  | inside found _ ih =>
      rw [DeclarativeForm.locateFrom, found]
      exact ih

theorem endsInKey (addresses : Addresses fields context segments located) :
    EndsInKey segments := by
  induction addresses with
  | here => exact .last _
  | inside _ _ ih => exact .later _ (.later _ ih)

theorem isPlain (named : WellNamed fields) (single : located.node.isGroup = false)
    (addresses : Addresses fields context segments located) : IsPlain segments := by
  induction addresses with
  | here found =>
      obtain ⟨member, rfl⟩ := mem_spread_of_findByName found
      exact ⟨named.isPlainName member single, fun _ member => nomatch member⟩
  | inside found _ ih =>
      obtain ⟨member, rfl⟩ := mem_spread_of_findByName found
      have below := ih (named.template member) single
      refine ⟨named.isPlainName member rfl, fun segment later => ?_⟩
      rcases List.mem_cons.mp later with rfl | inRest
      · rfl
      · exact below.all segment inRest

/-- The path of a node that holds no others and that of any other node are apart, unless the other
node is a repeatable around it. -/
theorem compare {other : Located}
    (bare : ∀ head template, located.node ≠ .repeatable head template)
    (first : Addresses fields context one located) (second : Addresses fields context two other) :
    Apart one two ∨ one = two ∧ other = located ∨
      ∃ head template position back, other.node = .repeatable head template ∧
        one = two ++ .index position :: back := by
  induction first generalizing two with
  | @here fields context name node found =>
      cases second with
      | @here _ _ otherName _ otherFound =>
          by_cases same : name = otherName
          · subst otherName
            rw [found] at otherFound
            cases otherFound
            exact Or.inr (Or.inl ⟨rfl, rfl⟩)
          · exact Or.inl (.key same)
      | @inside _ _ _ otherName _ _ _ _ otherFound _ =>
          refine Or.inl (.key ?_)
          rintro rfl
          rw [found] at otherFound
          cases otherFound
          exact absurd rfl (bare _ _)
  | @inside fields template context name head position rest located found _ ih =>
      cases second with
      | @here _ _ otherName _ otherFound =>
          by_cases same : name = otherName
          · subst otherName
            rw [found] at otherFound
            cases otherFound
            exact Or.inr (Or.inr ⟨head, template, position, rest, rfl, rfl⟩)
          · exact Or.inl (.key same)
      | @inside _ otherTemplate _ otherName otherHead otherPosition _ _ otherFound otherLater =>
          by_cases same : name = otherName
          · subst otherName
            rw [found] at otherFound
            cases otherFound
            by_cases samePosition : position = otherPosition
            · subst otherPosition
              rcases ih bare otherLater with
                apart | ⟨rfl, equal⟩ | ⟨outer, nodes, index, back, isRepeatable, rfl⟩
              · exact Or.inl (.step (.step apart))
              · exact Or.inr (Or.inl ⟨rfl, equal⟩)
              · exact Or.inr (Or.inr ⟨outer, nodes, index, back, isRepeatable, rfl⟩)
            · exact Or.inl (.step (.index samePosition))
          · exact Or.inl (.key same)

theorem compare_leaves {field otherField : Leaf} {place otherPlace : Context}
    (first : Addresses fields context one ⟨.leaf field, place⟩)
    (second : Addresses fields context two ⟨.leaf otherField, otherPlace⟩) :
    Apart one two ∨ one = two ∧ otherField = field ∧ otherPlace = place := by
  rcases compare (fun _ _ same => by cases same) first second with
    apart | ⟨same, equal⟩ | ⟨_, _, _, _, impossible, _⟩
  · exact Or.inl apart
  · cases equal
    exact Or.inr ⟨same, rfl, rfl⟩
  · cases impossible

end Addresses

/-! ### Walks -/

def Visit.IsAddressed (fields : List Node) (values : Json) (context : Context) (visit : Visit) :
    Prop :=
  ∃ segments, Addresses fields context segments ⟨visit.node, visit.context⟩ ∧
    visit.path = ⟨context.parent.segments ++ segments⟩ ∧
    missingItemFrom values context.parent segments = none

private theorem isAddressed_here {fields : List Node} {values : Json} {context : Context}
    {node : Node} (named : WellNamed fields) (member : node ∈ spread fields)
    (single : node.isGroup = false) :
    Visit.IsAddressed fields values context ⟨node, context.pathFor node.name, context⟩ :=
  ⟨[.key node.name], .here (named.findByName member single), rfl, rfl⟩

mutual

private theorem Node.walk_addressed {fields : List Node} {values : Json} {context : Context}
    (named : WellNamed fields) {visit : Visit} (single : visit.node.isGroup = false) :
    ∀ node : Node, (∀ peer ∈ Node.spread node, peer ∈ spread fields) →
      visit ∈ Node.walk .everything values context node → visit.IsAddressed fields values context
  | .leaf field, peers, member => by
      have here := peers (.leaf field) List.mem_cons_self
      rw [List.mem_singleton.mp member]
      exact isAddressed_here named here rfl
  | .group head inner, peers, member => by
      rcases List.mem_cons.mp member with same | inside
      · rw [same] at single
        cases single
      · exact walk_addressed named single inner
          (fun peer isPeer => peers peer (List.mem_cons_of_mem _ isPeer)) inside
  | .repeatable head template, peers, member => by
      have here := peers (.repeatable head template) List.mem_cons_self
      rcases List.mem_cons.mp member with same | inside
      · rw [same]
        exact isAddressed_here named here rfl
      · obtain ⟨index, inRange, inItem⟩ := List.mem_flatMap.mp inside
        obtain ⟨segments, addresses, path, complete⟩ := walk_addressed (named.template here) single
          template (fun _ isPeer => isPeer) inItem
        have found := named.findByName here rfl
        refine ⟨.key head.name :: .index index :: segments, .inside found addresses, ?_, ?_⟩
        · rw [path]
          simp [Context.enterItem, Context.pathFor, child, item]
        · have present := List.mem_range.mp inRange
          rw [missingItemFrom, missingItemFrom]
          exact (if_neg (Nat.not_le.mpr present)).trans complete
  | .flow field, peers, member => by
      have here := peers (.flow field) List.mem_cons_self
      rw [List.mem_singleton.mp member]
      exact isAddressed_here named here rfl

private theorem walk_addressed {fields : List Node} {values : Json} {context : Context}
    (named : WellNamed fields) {visit : Visit} (single : visit.node.isGroup = false) :
    ∀ nodes : List Node, (∀ peer ∈ spread nodes, peer ∈ spread fields) →
      visit ∈ walk .everything values context nodes → visit.IsAddressed fields values context
  | [], _, member => nomatch member
  | node :: rest, peers, member => by
      rcases List.mem_append.mp member with here | later
      · exact Node.walk_addressed named single node
          (fun peer isPeer => peers peer (List.mem_append_left _ isPeer)) here
      · exact walk_addressed named single rest
          (fun peer isPeer => peers peer (List.mem_append_right _ isPeer)) later

end

/-- The path of a visit addresses its node, and no item is missing on the way. -/
theorem addresses_of_mem_walk {fields : List Node} {values : Json} (named : WellNamed fields)
    {visit : Visit} (member : visit ∈ walk .everything values .root fields)
    (single : visit.node.isGroup = false) :
    Addresses fields .root visit.path.segments ⟨visit.node, visit.context⟩ ∧
      missingItem? visit.path values = none := by
  obtain ⟨segments, addresses, path, complete⟩ :=
    walk_addressed named single fields (fun _ isPeer => isPeer) member
  rw [path]
  exact ⟨addresses, complete⟩

theorem admits_everything (values : Json) (context : Context)
    (showWhen : Option ConditionGroup) :
    Reach.everything.admits values context showWhen = true := rfl

mutual

private theorem Node.walk_sublist (values : Json) (context : Context) : ∀ node : Node,
    (Node.walk .visible values context node).Sublist (Node.walk .everything values context node)
  | .leaf field => by
      rw [Node.walk, Node.walk, if_pos (admits_everything _ _ _)]
      by_cases shown : Reach.visible.admits values context field.showWhen = true
      · rw [if_pos shown]
      · rw [if_neg shown]
        exact List.nil_sublist _
  | .group head fields => by
      rw [Node.walk, Node.walk, if_pos (admits_everything _ _ _)]
      by_cases shown : Reach.visible.admits values context head.showWhen = true
      · rw [if_pos shown]
        exact (walk_sublist values context fields).cons_cons _
      · rw [if_neg shown]
        exact List.nil_sublist _
  | .repeatable head template => by
      rw [Node.walk, Node.walk, if_pos (admits_everything _ _ _)]
      by_cases shown : Reach.visible.admits values context head.showWhen = true
      · rw [if_pos shown]
        refine List.Sublist.cons_cons _ (List.Sublist.flatMap_right _ fun index _ => ?_)
        exact walk_sublist values _ template
      · rw [if_neg shown]
        exact List.nil_sublist _
  | .flow field => by
      rw [Node.walk, Node.walk, if_pos (admits_everything _ _ _)]
      by_cases shown : Reach.visible.admits values context field.showWhen = true
      · rw [if_pos shown]
      · rw [if_neg shown]
        exact List.nil_sublist _

/-- What is visible is visited in the same order by a walk over everything. -/
theorem walk_sublist (values : Json) (context : Context) : ∀ nodes : List Node,
    (walk .visible values context nodes).Sublist (walk .everything values context nodes)
  | [] => List.Sublist.refl _
  | node :: rest =>
      (Node.walk_sublist values context node).append (walk_sublist values context rest)

end

/-! ### The shape of a form -/

def KeepsItems (before after : Json) (visits : List Visit) : Prop :=
  ∀ visit ∈ visits, ∀ head template, visit.node = .repeatable head template →
    itemCount visit.path after = itemCount visit.path before

mutual

private theorem Node.walk_congr {before after : Json} {context : Context} : ∀ node : Node,
    KeepsItems before after (Node.walk .everything before context node) →
      Node.walk .everything after context node = Node.walk .everything before context node
  | .leaf field, _ => rfl
  | .group head fields, keeps =>
      congrArg (_ :: ·)
        (walk_congr fields fun visit member => keeps visit (List.mem_cons_of_mem _ member))
  | .repeatable head template, keeps => by
      have same := keeps _ List.mem_cons_self head template rfl
      simp only [Node.walk, Reach.admits, if_true]
      rw [same]
      refine congrArg (_ :: ·) (List.flatMap_congr fun index inRange => ?_)
      exact walk_congr template fun visit member => keeps visit
        (List.mem_cons_of_mem _ (List.mem_flatMap.mpr ⟨index, inRange, member⟩))
  | .flow field, _ => rfl

/-- A walk over everything depends on the values through the numbers of items only. -/
theorem walk_congr {before after : Json} {context : Context} : ∀ nodes : List Node,
    KeepsItems before after (walk .everything before context nodes) →
      walk .everything after context nodes = walk .everything before context nodes
  | [], _ => rfl
  | node :: rest, keeps => by
      have here := Node.walk_congr node fun visit member =>
        keeps visit (List.mem_append_left _ member)
      have later := walk_congr rest fun visit member =>
        keeps visit (List.mem_append_right _ member)
      rw [walk, here, later, walk]

end

theorem FieldPath.Edited.itemCount_repeatable {fields : List Node} {before after : Json}
    {path : FieldPath} {field : Leaf} {place around : Context} {other : FieldPath}
    {head : Repeatable} {template : List Node} (edited : Edited path.segments before after)
    (addresses : Addresses fields .root path.segments ⟨.leaf field, place⟩)
    (there : Addresses fields .root other.segments ⟨.repeatable head template, around⟩) :
    itemCount other after = itemCount other before := by
  rcases Addresses.compare (fun _ _ same => by cases same) addresses there with
    apart | ⟨_, same⟩ | ⟨_, _, position, back, _, below⟩
  · have untouched := edited.getAt_of_apart apart
    rw [FieldPath.itemCount_eq, FieldPath.itemCount_eq, get?_eq, get?_eq, untouched]
  · cases same
  · rw [below] at edited
    exact edited.itemCount_eq

theorem FieldPath.Edited.walk_eq {fields : List Node} {before after : Json} {path : FieldPath}
    {field : Leaf} {place : Context} (edited : Edited path.segments before after)
    (named : WellNamed fields)
    (addresses : Addresses fields .root path.segments ⟨.leaf field, place⟩) :
    walk .everything after .root fields = walk .everything before .root fields := by
  refine walk_congr fields fun visit member head template node => ?_
  have single : visit.node.isGroup = false := by
    rw [node]
    rfl
  have there := (addresses_of_mem_walk named member single).1
  rw [node] at there
  exact edited.itemCount_repeatable addresses there

end DeclarativeForm
