import DeclarativeForm.Proofs.Path.Grammar
import DeclarativeForm.Proofs.Path.Shift
import DeclarativeForm.Proofs.Tree.Agreement
import DeclarativeForm.Proofs.Tree.Dependency
import Mathlib.Data.List.Forall2

/-!
A form after the removal of an item. When nothing that is looked up starts with the name of a
repeatable, every node that is visited after the removal was visited before, at the path that moves
to its own, and saw the same values there. So flows and bindings are those from before, with their
paths moved and their arguments kept.
-/

set_option autoImplicit false

namespace DeclarativeForm

open FieldPath

/-! ### What a form looks up -/

def firstKey? (entry : String) : Option String :=
  match parse entry with
  | .ok ⟨.key name :: _⟩ => some name
  | _ => none

def Node.lookups (node : Node) : List String :=
  node.entries ++ match node.showWhen with
    | some shown => shown.conditions.map (·.field)
    | none => []

/-- Nothing that is looked up starts with the name of a repeatable. -/
def LooksPast (fields : List Node) : Prop :=
  ∀ node ∈ everyNode fields, ∀ entry ∈ node.lookups,
    ∀ other ∈ everyNode fields, other.isRepeatable = true → firstKey? entry ≠ some other.name

instance (fields : List Node) : Decidable (LooksPast fields) :=
  inferInstanceAs (Decidable (∀ node ∈ everyNode fields, _))

theorem Addresses.exists_repeatable {fields : List Node} {context place : Context}
    {segments : List Segment} {head : Repeatable} {template : List Node} {name : String}
    (addresses : Addresses fields context segments ⟨.repeatable head template, place⟩)
    (member : .key name ∈ segments) :
    ∃ other ∈ everyNode fields, other.isRepeatable = true ∧ other.name = name := by
  generalize isList : Located.mk (.repeatable head template) place = located at addresses
  induction addresses with
  | here found =>
      cases isList
      cases List.mem_singleton.mp member
      exact ⟨_, mem_everyNode_of_findByName found, rfl, (mem_spread_of_findByName found).2⟩
  | inside found _ ih =>
      rcases List.mem_cons.mp member with same | later
      · cases same
        exact ⟨_, mem_everyNode_of_findByName found, rfl, (mem_spread_of_findByName found).2⟩
      · rcases List.mem_cons.mp later with impossible | below
        · cases impossible
        · obtain ⟨other, inTemplate, rest⟩ := ih below isList
          exact ⟨other, everyNode_template_subset found inTemplate, rest⟩

/-! ### Places -/

variable {removed : Nat} {list : List Segment} {before after : Json} {place later : Context}

structure Context.Moves (removed : Nat) (list : List Segment) (place later : Context) : Prop where
  parent : shift removed list place.parent.segments = some later.parent.segments
  items : List.Forall₂ (fun item moved : FieldPath =>
    shift removed list item.segments = some moved.segments) place.items later.items

theorem Context.moves_root (removed : Nat) (list : List Segment) :
    Context.root.Moves removed list .root :=
  ⟨shift_nil removed list, .nil⟩

theorem Context.Moves.pathFor (moves : place.Moves removed list later) (name : String) :
    shift removed list (place.pathFor name).segments = some (later.pathFor name).segments := by
  rw [Context.pathFor, child, shift_append_name, moves.parent]
  rfl

theorem Context.Moves.enterItem (moves : place.Moves removed list later) {path moved : FieldPath}
    {position landed : Nat}
    (shifts : shift removed list (path.item position).segments =
      some (moved.item landed).segments) :
    (place.enterItem path position).Moves removed list (later.enterItem moved landed) := by
  refine ⟨shifts, ?_⟩
  exact List.rel_append moves.items (.cons shifts .nil)

private theorem getAt_below (erased : Erased removed list before after) {name : String}
    (free : .key name ∉ list) {path moved : List Segment}
    (moves : shift removed list path = some moved) (rest : List Segment) :
    getAt (moved ++ .key name :: rest) after = getAt (path ++ .key name :: rest) before := by
  refine erased.getAt_eq ?_ ?_
  · intro within
    exact free (within.subset (List.mem_append_right _ List.mem_cons_self))
  · rw [shift_append_key free, moves]
    rfl

private theorem findSome?_forall₂ {α β γ : Type} {related : α → β → Prop} {one : α → Option γ}
    {two : β → Option γ} {items : List α} {others : List β}
    (pairs : List.Forall₂ related items others)
    (same : ∀ item other, related item other → two other = one item) :
    others.findSome? two = items.findSome? one := by
  induction pairs with
  | nil => rfl
  | cons pair _ ih => rw [List.findSome?_cons, List.findSome?_cons, same _ _ pair, ih]

/-- What is looked up past the repeatables is found as before. -/
theorem Context.Moves.lookup_eq (moves : place.Moves removed list later)
    (erased : Erased removed list before after) {entry : String}
    (past : ∀ name, firstKey? entry = some name → .key name ∉ list) :
    (later.scope after).lookup entry = (place.scope before).lookup entry := by
  rw [Scope.lookup, Scope.lookup]
  cases read : parse entry with
  | error fault => rfl
  | ok path =>
      obtain ⟨segments⟩ := path
      obtain ⟨name, rest, split⟩ := exists_key_of_parse read
      obtain rfl : segments = .key name :: rest := split
      have free : .key name ∉ list := past name (by rw [firstKey?, read])
      have atRoot := getAt_below erased free (shift_nil removed list) rest
      have inItems := findSome?_forall₂ (List.rel_reverse moves.items)
        fun _ _ shifts => getAt_below erased free shifts rest
      change (Scope.within after later.items).find? _ = (Scope.within before place.items).find? _
      rw [Scope.find?_within, Scope.find?_within, inItems]
      exact congrArg _ atRoot

/-! ### Visits -/

def IsPast (list : List Segment) (entry : String) : Prop :=
  ∀ name, firstKey? entry = some name → .key name ∉ list

theorem LooksPast.isPast {fields : List Node} (past : LooksPast fields) {head : Repeatable}
    {template : List Node}
    (isList : Addresses fields .root list ⟨.repeatable head template, place⟩) {node : Node}
    (member : node ∈ everyNode fields) {entry : String} (isEntry : entry ∈ node.lookups) :
    IsPast list entry := by
  intro name first inList
  obtain ⟨other, isOther, isRepeatable, rfl⟩ := isList.exists_repeatable inList
  exact past node member entry isEntry other isOther isRepeatable first

theorem Context.Moves.isShown_eq (moves : place.Moves removed list later)
    (erased : Erased removed list before after) {showWhen : Option ConditionGroup}
    (past : ∀ group, showWhen = some group →
      ∀ condition ∈ group.conditions, IsPast list condition.field) :
    isShown showWhen (later.scope after) = isShown showWhen (place.scope before) :=
  isShown_congr fun group shown condition member =>
    moves.lookup_eq erased (past group shown condition member)

theorem Context.Moves.admits_eq (moves : place.Moves removed list later)
    (erased : Erased removed list before after) (reach : Reach)
    {showWhen : Option ConditionGroup}
    (past : ∀ group, showWhen = some group →
      ∀ condition ∈ group.conditions, IsPast list condition.field) :
    reach.admits after later showWhen = reach.admits before place showWhen := by
  cases reach with
  | everything => rfl
  | visible => exact moves.isShown_eq erased past

structure Visit.Moves (removed : Nat) (list : List Segment) (visit moved : Visit) : Prop where
  node : moved.node = visit.node
  path : shift removed list visit.path.segments = some moved.path.segments
  context : visit.context.Moves removed list moved.context

private theorem exists_item (erased : Erased removed list before after) {path moved : FieldPath}
    (moves : shift removed list path.segments = some moved.segments) {landed : Nat}
    (inRange : landed < itemCount moved after) :
    ∃ position, position < itemCount path before ∧
      shift removed list (path.item position).segments = some (moved.item landed).segments := by
  by_cases isList : path.segments = list
  · obtain ⟨segments⟩ := path
    obtain rfl : segments = list := isList
    have stays := shift_front removed segments []
    rw [List.append_nil, moves] at stays
    obtain ⟨landing⟩ := moved
    obtain rfl : landing = segments := Option.some.inj stays
    obtain ⟨count, inside, few⟩ := erased.itemCount_list
    -- The items before the removed one keep their places, the others have moved down to theirs.
    have lands (position : Nat) (moves : movedPosition removed position = some landed) :
        shift removed landing (landing ++ [.index position]) =
          some (landing ++ [.index landed]) := by
      rw [shift_item, moves]
      rfl
    by_cases earlier : landed < removed
    · refine ⟨landed, by omega, lands landed ?_⟩
      rw [movedPosition, if_neg (by omega), if_neg (by omega), if_neg (by omega)]
    · refine ⟨landed + 1, by omega, lands (landed + 1) ?_⟩
      rw [movedPosition, if_neg (by omega), if_neg (by omega), if_pos (by omega)]
      rfl
  · have count := erased.itemCount_eq isList moves
    refine ⟨landed, ?_, ?_⟩
    · change landed < itemCount ⟨path.segments⟩ before
      rw [← count]
      exact inRange
    · rw [item, shift_append_item isList, moves]
      rfl

private def ShownPast (list : List Segment) (nodes : List Node) : Prop :=
  ∀ node ∈ nodes, ∀ group, node.showWhen = some group →
    ∀ condition ∈ group.conditions, IsPast list condition.field

mutual

private theorem Node.walk_moves {reach : Reach} (erased : Erased removed list before after)
    {place later : Context} (moves : place.Moves removed list later) {visit : Visit} :
    ∀ node : Node, ShownPast list (Node.everyNode node) →
      visit ∈ Node.walk reach after later node →
      ∃ old ∈ Node.walk reach before place node, old.Moves removed list visit
  | .leaf field, past, member => by
      have admits := moves.admits_eq erased reach (past (.leaf field) List.mem_cons_self)
      rw [Node.showWhen] at admits
      rw [Node.walk, admits] at member
      rw [Node.walk]
      split at member
      · rename_i admitted
        rw [if_pos admitted, List.mem_singleton.mp member]
        exact ⟨_, List.mem_cons_self, rfl, moves.pathFor field.name, moves⟩
      · cases member
  | .group head fields, past, member => by
      have admits := moves.admits_eq erased reach (past (.group head fields) List.mem_cons_self)
      rw [Node.showWhen] at admits
      rw [Node.walk, admits] at member
      rw [Node.walk]
      split at member
      · rename_i admitted
        rw [if_pos admitted]
        rcases List.mem_cons.mp member with rfl | inside
        · exact ⟨_, List.mem_cons_self, rfl, moves.parent, moves⟩
        · obtain ⟨old, isOld, same⟩ := walk_moves erased moves fields
            (fun inner isInner => past inner (List.mem_cons_of_mem _ isInner)) inside
          exact ⟨old, List.mem_cons_of_mem _ isOld, same⟩
      · cases member
  | .repeatable head template, past, member => by
      have admits := moves.admits_eq erased reach
        (past (.repeatable head template) List.mem_cons_self)
      rw [Node.showWhen] at admits
      rw [Node.walk, admits] at member
      rw [Node.walk]
      split at member
      · rename_i admitted
        rw [if_pos admitted]
        rcases List.mem_cons.mp member with rfl | inside
        · exact ⟨_, List.mem_cons_self, rfl, moves.pathFor head.name, moves⟩
        · obtain ⟨landed, inRange, inItem⟩ := List.mem_flatMap.mp inside
          obtain ⟨position, wasThere, shifts⟩ :=
            exists_item erased (moves.pathFor head.name) (List.mem_range.mp inRange)
          obtain ⟨old, isOld, same⟩ := walk_moves erased (moves.enterItem shifts) template
            (fun inner isInner => past inner (List.mem_cons_of_mem _ isInner)) inItem
          refine ⟨old, List.mem_cons_of_mem _ ?_, same⟩
          exact List.mem_flatMap.mpr ⟨position, List.mem_range.mpr wasThere, isOld⟩
      · cases member
  | .flow field, past, member => by
      have admits := moves.admits_eq erased reach (past (.flow field) List.mem_cons_self)
      rw [Node.showWhen] at admits
      rw [Node.walk, admits] at member
      rw [Node.walk]
      split at member
      · rename_i admitted
        rw [if_pos admitted, List.mem_singleton.mp member]
        exact ⟨_, List.mem_cons_self, rfl, moves.pathFor field.name, moves⟩
      · cases member

private theorem walk_moves {reach : Reach} (erased : Erased removed list before after)
    {place later : Context} (moves : place.Moves removed list later) {visit : Visit} :
    ∀ nodes : List Node, ShownPast list (everyNode nodes) →
      visit ∈ walk reach after later nodes →
      ∃ old ∈ walk reach before place nodes, old.Moves removed list visit
  | [], _, member => nomatch member
  | node :: rest, past, member => by
      rcases List.mem_append.mp member with here | inRest
      · obtain ⟨old, isOld, same⟩ := Node.walk_moves erased moves node
          (fun inner isInner => past inner (List.mem_append_left _ isInner)) here
        exact ⟨old, List.mem_append_left _ isOld, same⟩
      · obtain ⟨old, isOld, same⟩ := walk_moves erased moves rest
          (fun inner isInner => past inner (List.mem_append_right _ isInner)) inRest
        exact ⟨old, List.mem_append_right _ isOld, same⟩

end

/-! ### Flows and bindings -/

section Removed

variable {fields : List Node} {repeatable : FieldPath} {head : Repeatable} {template : List Node}
  (past : LooksPast fields)
  (isList : Addresses fields .root repeatable.segments ⟨.repeatable head template, place⟩)
  (erased : Erased removed repeatable.segments before after)

include past isList erased

theorem exists_visit {reach : Reach} {visit : Visit}
    (member : visit ∈ walk reach after .root fields) :
    ∃ old ∈ walk reach before .root fields, old.Moves removed repeatable.segments visit := by
  refine walk_moves erased (Context.moves_root removed repeatable.segments) fields ?_ member
  intro node isNode group shown condition isCondition
  refine past.isPast isList isNode (List.mem_append_right _ ?_)
  rw [shown]
  exact List.mem_map_of_mem isCondition

theorem exists_flowPlace {flowPlace : FlowPlace}
    (member : flowPlace ∈ flowPlaces fields after) :
    ∃ old ∈ flowPlaces fields before,
      afterRemoval repeatable removed old.path = some flowPlace.path := by
  obtain ⟨visit, visited, made⟩ := List.mem_filterMap.mp member
  obtain ⟨old, wasVisited, moves⟩ := exists_visit past isList erased visited
  obtain ⟨node, path, context⟩ := visit
  obtain ⟨oldNode, oldPath, oldContext⟩ := old
  cases moves.node
  cases node with
  | flow flow =>
      cases made
      refine ⟨⟨oldPath, flow, oldContext⟩, List.mem_filterMap.mpr ⟨_, wasVisited, rfl⟩, ?_⟩
      rw [afterRemoval, moves.path]
      rfl
  | leaf field => cases made
  | group head fields => cases made
  | repeatable head template => cases made

/-- Bindings after the removal are those from before, with their arguments, at paths that have
moved. -/
theorem exists_binding {binding : OptionBinding}
    (member : binding ∈ optionBindings fields after) :
    ∃ old ∈ optionBindings fields before, old.args = binding.args ∧
      afterRemoval repeatable removed old.path = some binding.path := by
  rw [optionBindings_eq] at member
  obtain ⟨visit, visited, made⟩ := List.mem_filterMap.mp member
  obtain ⟨old, wasVisited, moves⟩ := exists_visit past isList erased visited
  have isNode := mem_everyNode_of_mem_walk fields visited
  obtain ⟨node, path, context⟩ := visit
  obtain ⟨oldNode, oldPath, oldContext⟩ := old
  cases moves.node
  cases node with
  | leaf field =>
      obtain ⟨source, fed, rfl⟩ := Option.map_eq_some_iff.mp made
      have args : source.argsIn (context.scope after) =
          source.argsIn (oldContext.scope before) := by
        refine argsIn_congr fun entry isEntry => moves.context.lookup_eq erased ?_
        refine past.isPast isList isNode (List.mem_append_left _ ?_)
        rw [Node.entries, fed]
        exact isEntry
      refine ⟨⟨oldPath, field, source, source.argsIn (oldContext.scope before)⟩, ?_, args.symm,
        ?_⟩
      · rw [optionBindings_eq]
        refine List.mem_filterMap.mpr ⟨_, wasVisited, ?_⟩
        simp only [Visit.binding?, fed, Option.map_some]
      · rw [afterRemoval, moves.path]
        rfl
  | group head fields => cases made
  | repeatable head template => cases made
  | flow flow => cases made

end Removed

end DeclarativeForm
