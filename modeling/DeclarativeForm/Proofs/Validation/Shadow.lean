import DeclarativeForm.Proofs.Tree.Agreement
import DeclarativeForm.Proofs.Tree.Dependency

/-!
Fields that are looked up by the texts of their own paths, as cross-field rules do it. The items
around a field come first, so its whole path is tried inside of them before it is taken from the
root, where the field has its value. What an item holds there shadows the value. It takes a member
of the item with the name that the path starts with: a node inside a repeatable with the name of
that repeatable, or a member that the form has no node for.
-/

set_option autoImplicit false

namespace DeclarativeForm

open FieldPath

/-- Under a name, at the root or in an item, the values hold only what the form has a node for. -/
def Declares (fields : List Node) (values : Json) : Prop :=
  ∀ name segments, Probes name fields segments → getAt segments values ≠ none →
    ∃ located, Addresses fields .root segments located ∧ located.node.isGroup = false

/-- No node in an item has the name of the outermost repeatable around it. -/
def NestsNoName (fields : List Node) : Prop :=
  ∀ head template, .repeatable head template ∈ spread fields →
    ∀ node ∈ everyNode template, node.isGroup = false → node.name ≠ head.name

/-- What is addressed where a name is looked for has that name. -/
theorem Probes.name_eq {name : String} {fields : List Node} {segments : List Segment}
    {context : Context} {located : Located} (probes : Probes name fields segments)
    (addresses : Addresses fields context segments located) : located.node.name = name := by
  induction probes generalizing context with
  | here =>
      cases addresses with
      | here found => exact (mem_spread_of_findByName found).2
  | inside found _ ih =>
      cases addresses with
      | inside sameFound later =>
          rw [found] at sameFound
          cases sameFound
          exact ih later

namespace Visit

/-- What an item around a node holds under the whole path of the node, the innermost item first. -/
def shadow? (visit : Visit) (values : Json) : Option Json :=
  visit.context.items.reverse.findSome? fun item =>
    getAt (item.segments ++ visit.path.segments) values

variable {fields : List Node} {values : Json} {visit : Visit}

/-- Looked up by the text of its path, a node finds its shadow before its value. -/
theorem lookup_text (named : WellNamed fields)
    (member : visit ∈ walk .everything values .root fields) (single : visit.node.isGroup = false)
    (inRange : visit.path.InRange) :
    (visit.context.scope values).lookup visit.path.text =
      (visit.shadow? values).or (visit.path.get? values) := by
  have readable := parse_text_eq_ok_iff (isPlain_of_mem_walk named member single)
  rw [Scope.lookup, readable.mpr inRange]
  exact Scope.find?_within values visit.context.items visit.path

/-- Around a node inside a repeatable no item holds anything under the name of the repeatable, if
the form has no node of this name there. -/
private theorem get?_child_eq_none {template : List Node} {head : Repeatable}
    {position : Nat} {rest : List Segment} {located : Located} (apart : NestsNoName fields)
    (declared : Declares fields values)
    (found : findByName head.name fields = some (.repeatable head template))
    (later : Addresses template (Context.root.enterItem (.key head.name) position) rest located)
    {item : FieldPath} (member : item ∈ located.context.items) :
    (item.child head.name).get? values = none := by
  have probed : ∃ segments, Probes head.name template segments ∧
      item.child head.name = ⟨.key head.name :: .index position :: segments⟩ := by
    rcases later.probes head.name member with around | ⟨segments, probes, same⟩
    · cases List.mem_singleton.mp around
      exact ⟨_, .here, rfl⟩
    · exact ⟨segments, probes, same⟩
  obtain ⟨segments, probes, same⟩ := probed
  rw [same]
  refine Classical.byContradiction fun held => ?_
  obtain ⟨other, addresses, single⟩ := declared _ _ (.inside found probes) held
  cases addresses with
  | inside otherFound inTemplate =>
      rw [found] at otherFound
      cases otherFound
      have isRepeatable := (mem_spread_of_findByName found).1
      exact apart _ _ isRepeatable _ inTemplate.mem_everyNode single (probes.name_eq inTemplate)

/-- If the form has no node that could hold a shadow, and the values hold only what the form has
nodes for, there are no shadows. -/
theorem shadow?_eq_none
    (addresses : Addresses fields .root visit.path.segments ⟨visit.node, visit.context⟩)
    (apart : NestsNoName fields) (declared : Declares fields values) :
    visit.shadow? values = none := by
  refine List.findSome?_eq_none_iff.mpr fun item member => ?_
  rw [List.mem_reverse] at member
  obtain ⟨node, ⟨segments⟩, context⟩ := visit
  cases addresses with
  | here => cases member
  | @inside _ template _ _ head position rest _ found later =>
      obtain rfl := (mem_spread_of_findByName found).2
      have nothing : getAt (item.segments ++ [.key head.name]) values = none :=
        get?_child_eq_none apart declared found later member
      have below : getAt ((item.segments ++ [.key head.name]) ++ .index position :: rest) values =
          none := by
        rw [getAt_append, nothing]
        rfl
      rwa [List.append_assoc] at below

/-- Looked up by the text of its path a leaf, repeatable or flow finds the value that its rule set
is run on exactly if its shadow, when it has one, is the same value. It has none if no node in an
item has the name of the outermost repeatable and the values hold only what the form declares. -/
theorem finds_own_value_iff_unshadowed (named : WellNamed fields)
    (member : visit ∈ walk .everything values .root fields) (single : visit.node.isGroup = false)
    (inRange : visit.path.InRange) :
    ((visit.context.scope values).lookup visit.path.text = visit.path.get? values ↔
      ∀ shadow, visit.shadow? values = some shadow → visit.path.get? values = some shadow) ∧
    (NestsNoName fields → Declares fields values →
      (visit.context.scope values).lookup visit.path.text = visit.path.get? values) := by
  rw [lookup_text named member single inRange]
  constructor
  · cases visit.shadow? values with
    | none => exact ⟨fun _ _ found => (nomatch found), fun _ => rfl⟩
    | some found =>
        constructor
        · intro same shadow isShadow
          exact same.symm.trans isShadow
        · intro same
          exact (same found rfl).symm
  · intro apart declared
    rw [shadow?_eq_none (addresses_of_mem_walk named member single).1 apart declared]
    rfl

end Visit

def taskEnd : Node := .leaf (.fed "end" (.dependingOn []))

def taskFields (inner : List Node) : List Node := [.repeatable (.named "tasks") (taskEnd :: inner)]

def taskValues (inner : List (String × Json)) : Json :=
  .object [("tasks", .array [.object (("end", .string "2024-05-03") :: inner)])]

theorem taskValues_declared : Declares (taskFields []) (taskValues []) := by
  intro name segments probes held
  cases probes with
  | here =>
      obtain rfl : "tasks" = name := by
        simpa [taskValues, getAt, Members.find?] using held
      exact ⟨_, .here rfl, rfl⟩
  | @inside _ template outer head position rest found inTask =>
      obtain ⟨isTasks, rfl⟩ := mem_spread_of_findByName found
      cases List.mem_singleton.mp isTasks
      cases inTask with
      | here =>
          obtain rfl : "end" = name := by
            simp only [Node.name, Repeatable.named] at held
            cases position with
            | zero => simpa [taskValues, getAt, Members.find?] using held
            | succ position => simp [taskValues, getAt, Members.find?] at held
          exact ⟨_, .inside rfl (.here rfl), rfl⟩
      | inside nested _ => cases List.mem_singleton.mp (mem_spread_of_findByName nested).1

/-- The end of a task is looked up as that of a task inside it; without tasks inside it is found. -/
theorem firstEnd_shadowed :
    let nested := taskValues [("tasks", .array [.object [("end", .string "2024-05-01")]])]
    let flat := taskValues []
    let task := (FieldPath.key "tasks").item 0
    let place : Context := ⟨task, [task]⟩
    (place.scope nested).lookup (task.child "end").text ≠ (task.child "end").get? nested ∧
      (place.scope flat).lookup (task.child "end").text = (task.child "end").get? flat := by
  intro nested flat task place
  have inRange : (task.child "end").InRange := by
    intro position member
    simp [task, child, item, key] at member
    exact member ▸ (by decide)
  let visit : Visit := ⟨taskEnd, task.child "end", place⟩
  obtain ⟨shadowed, _⟩ := @Visit.finds_own_value_iff_unshadowed
    (taskFields [.repeatable (.named "tasks") [taskEnd]]) nested visit (by decide +kernel)
    (.tail _ (.head _)) rfl inRange
  obtain ⟨_, clear⟩ := @Visit.finds_own_value_iff_unshadowed (taskFields []) flat visit
    (by decide +kernel) (.tail _ (.head _)) rfl inRange
  refine ⟨fun found => ?_, clear ?_ taskValues_declared⟩
  · have same := shadowed.mp found (.string "2024-05-01") rfl
    exact absurd same (by decide +kernel)
  · intro head template member node inTask _ sameName
    cases List.mem_singleton.mp member
    cases List.mem_singleton.mp inTask
    exact absurd sameName (by decide)

end DeclarativeForm
