import DeclarativeForm.Proofs.Path.Rename
import DeclarativeForm.Proofs.Tree.Address

/-!
Keys of a form. The tables of a form are keyed by the texts of the paths of its leaves, repeatables
and flows, and by those of the steps of flows. After the removal of an item each of these paths
leads to a node of the same kind or nowhere, and its key is moved accordingly.
-/

set_option autoImplicit false

namespace DeclarativeForm

open FieldPath

variable {fields : List Node} {context : Context} {segments list moved : List Segment}
  {located : Located} {removed : Nat}

theorem Addresses.ne_nil (addresses : Addresses fields context segments located) :
    segments ≠ [] := by
  cases addresses <;> exact List.cons_ne_nil _ _

theorem Addresses.alternating (named : WellNamed fields) (single : located.node.isGroup = false)
    (addresses : Addresses fields context segments located) : Alternating segments := by
  induction addresses with
  | here found =>
      obtain ⟨member, rfl⟩ := mem_spread_of_findByName found
      exact .last (named.isPlainName member single)
  | inside found _ ih =>
      obtain ⟨member, rfl⟩ := mem_spread_of_findByName found
      exact .inside (named.isPlainName member rfl) (ih (named.template member) single)

/-- The same segments address the same node from every place. -/
theorem Addresses.replaced (addresses : Addresses fields context segments located)
    (other : Context) : ∃ place, Addresses fields other segments ⟨located.node, place⟩ := by
  induction addresses generalizing other with
  | here found => exact ⟨other, .here found⟩
  | inside found _ ih =>
      obtain ⟨place, later⟩ := ih (other.enterItem (other.pathFor _) _)
      exact ⟨place, .inside found later⟩

theorem Addresses.reindexed {front back : List Segment} {position : Nat}
    (addresses : Addresses fields context (front ++ .index position :: back) located)
    (other : Nat) :
    ∃ place, Addresses fields context (front ++ .index other :: back) ⟨located.node, place⟩ := by
  generalize whole : front ++ .index position :: back = segments at addresses
  induction addresses generalizing front with
  | here found =>
      rcases front with _ | ⟨first, _ | ⟨second, front⟩⟩ <;> cases whole
  | @inside fields template context name head index rest located found later ih =>
      rcases front with _ | ⟨first, _ | ⟨second, front⟩⟩
      · cases whole
      · cases whole
        obtain ⟨place, there⟩ := later.replaced
          (context.enterItem (context.pathFor head.name) other)
        exact ⟨place, .inside found there⟩
      · cases whole
        obtain ⟨place, there⟩ := ih rfl
        exact ⟨place, .inside found there⟩

/-- Where a path leads after a removal there is the node it led to. -/
theorem Addresses.shift (addresses : Addresses fields context segments located)
    (moves : FieldPath.shift removed list segments = some moved) :
    ∃ place, Addresses fields context moved ⟨located.node, place⟩ := by
  by_cases below : ∃ position rest, segments = list ++ .index position :: rest
  · obtain ⟨position, rest, rfl⟩ := below
    obtain ⟨later, _, rfl⟩ := eq_of_shift_item moves
    exact addresses.reindexed later
  · rw [shift_eq_self below] at moves
    cases moves
    exact ⟨located.context, addresses⟩

/-- What is at a path after a removal was at a path to the same node. -/
theorem Addresses.former (addresses : Addresses fields context segments located)
    (removed : Nat) (list : List Segment) :
    ∃ place, Addresses fields context (FieldPath.former removed list segments)
      ⟨located.node, place⟩ := by
  by_cases below : ∃ position rest, segments = list ++ .index position :: rest
  · obtain ⟨position, rest, rfl⟩ := below
    rw [former_item]
    exact addresses.reindexed _
  · rw [former_eq_self below]
    exact ⟨located.context, addresses⟩

/-! ### Paths of keys -/

inductive IsKeyPath (fields : List Node) : FieldPath → Prop
  | node {path : FieldPath} {located : Located}
      (addresses : Addresses fields .root path.segments located)
      (single : located.node.isGroup = false) : IsKeyPath fields path
  | step {path : FieldPath} {flow : Flow} {context : Context}
      (addresses : Addresses fields .root path.segments ⟨.flow flow, context⟩) (id : String) :
      IsKeyPath fields (path.child id)

namespace IsKeyPath

variable {path target repeatable : FieldPath} {head : Repeatable} {template : List Node}
  {place : Context}

theorem exists_alternating (isKey : IsKeyPath fields path) (named : WellNamed fields) :
    ∃ front tail, Alternating front ∧ IsTail tail ∧ path = ⟨front ++ tail⟩ := by
  cases isKey with
  | node addresses single =>
      refine ⟨path.segments, [], addresses.alternating named single, .nil, ?_⟩
      rw [List.append_nil]
  | @step path flow context addresses id =>
      exact ⟨path.segments, [.key id], addresses.alternating named rfl, .step id, rfl⟩

theorem eq_of_text (isKey : IsKeyPath fields path) (isOther : IsKeyPath fields target)
    (named : WellNamed fields) (same : path.text = target.text) : path = target := by
  obtain ⟨front, tail, alternating, isTail, rfl⟩ := isKey.exists_alternating named
  obtain ⟨other, ending, isAlternating, isEnding, rfl⟩ := isOther.exists_alternating named
  obtain ⟨rfl, rfl⟩ := alternating.characters_injective isAlternating isTail isEnding
    (String.ofList_injective same)
  rfl

theorem showsItem (isKey : IsKeyPath fields path) (named : WellNamed fields)
    (isList : Addresses fields .root repeatable.segments ⟨.repeatable head template, place⟩) :
    ShowsItem repeatable.segments path.segments := by
  obtain ⟨front, tail, alternating, isTail, rfl⟩ := isKey.exists_alternating named
  exact (isList.alternating named rfl).showsItem alternating isTail

theorem reindexKey_text (isKey : IsKeyPath fields path) (named : WellNamed fields)
    (isList : Addresses fields .root repeatable.segments ⟨.repeatable head template, place⟩) :
    reindexKey path.text repeatable.text removed =
      (afterRemoval repeatable removed path).map text :=
  DeclarativeForm.reindexKey_text (isList.alternating named rfl).ne_nil
    (isKey.showsItem named isList) removed

theorem afterRemoval (isKey : IsKeyPath fields path)
    (moves : FieldPath.afterRemoval repeatable removed path = some target) :
    IsKeyPath fields target := by
  obtain ⟨segments, shifted, rfl⟩ := Option.map_eq_some_iff.mp moves
  cases isKey with
  | node addresses single =>
      obtain ⟨place, there⟩ := addresses.shift shifted
      exact .node there single
  | @step path flow context addresses id =>
      rw [child, shift_append_name] at shifted
      obtain ⟨below, isBelow, rfl⟩ := Option.map_eq_some_iff.mp shifted
      obtain ⟨place, there⟩ := addresses.shift isBelow
      have there : Addresses fields .root (FieldPath.mk below).segments ⟨.flow flow, place⟩ := there
      exact .step there id

end IsKeyPath

/-! ### Keys -/

def IsKey (fields : List Node) (key : String) : Prop :=
  ∃ path, IsKeyPath fields path ∧ path.text = key

theorem Addresses.isKey {path : FieldPath}
    (addresses : Addresses fields .root path.segments located)
    (single : located.node.isGroup = false) : IsKey fields path.text :=
  ⟨path, .node addresses single, rfl⟩

theorem FieldPath.text_child {path : FieldPath} (inside : path.segments ≠ []) (name : String) :
    (path.child name).text = path.text ++ "." ++ name := by
  obtain ⟨segments⟩ := path
  obtain ⟨first, later, rfl⟩ := List.exists_cons_of_ne_nil inside
  apply String.toList_inj.mp
  simp [text, child, characters, laterSegment]

theorem Addresses.isKey_step {path : FieldPath} {flow : Flow}
    (addresses : Addresses fields .root path.segments ⟨.flow flow, context⟩) (id : String) :
    IsKey fields (path.text ++ "." ++ id) := by
  exact ⟨path.child id, .step addresses id, text_child addresses.ne_nil id⟩

theorem Addresses.pathFor_eq (addresses : Addresses fields context segments located) :
    located.context.pathFor located.node.name = ⟨context.parent.segments ++ segments⟩ := by
  induction addresses with
  | here found =>
      rw [← (mem_spread_of_findByName found).2]
      rfl
  | @inside fields template context name head position rest located found _ ih =>
      have named : head.name = name := (mem_spread_of_findByName found).2
      rw [ih]
      simp [Context.enterItem, Context.pathFor, child, item, named]

theorem IsKey.reindexKey {repeatable : FieldPath} {head : Repeatable} {template : List Node}
    {place : Context} {key target : String} (isKey : IsKey fields key) (named : WellNamed fields)
    (isList : Addresses fields .root repeatable.segments ⟨.repeatable head template, place⟩)
    (moves : DeclarativeForm.reindexKey key repeatable.text removed = some target) :
    IsKey fields target := by
  obtain ⟨path, isPath, rfl⟩ := isKey
  rw [isPath.reindexKey_text named isList] at moves
  obtain ⟨landed, lands, rfl⟩ := Option.map_eq_some_iff.mp moves
  exact ⟨landed, isPath.afterRemoval lands, rfl⟩

theorem IsKey.reindexKey_injective {repeatable : FieldPath} {head : Repeatable}
    {template : List Node} {place : Context} {one two key : String} (isKey : IsKey fields one)
    (isOther : IsKey fields two) (named : WellNamed fields)
    (isList : Addresses fields .root repeatable.segments ⟨.repeatable head template, place⟩)
    (first : DeclarativeForm.reindexKey one repeatable.text removed = some key)
    (second : DeclarativeForm.reindexKey two repeatable.text removed = some key) : one = two := by
  obtain ⟨path, isPath, rfl⟩ := isKey
  obtain ⟨other, isOtherPath, rfl⟩ := isOther
  exact DeclarativeForm.reindexKey_injective (isList.alternating named rfl).ne_nil
    (isPath.showsItem named isList) (isOtherPath.showsItem named isList) first second

end DeclarativeForm
