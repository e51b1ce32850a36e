import DeclarativeForm.Proofs.Tree.Dependency
import DeclarativeForm.Proofs.Path.Frame

/-!
What a condition reads. A path in a condition is looked up below each item around its node and then
at the root, and the first place that holds something ends the search. Where another value is put
in place of one that none of these places meets, the lookups find what they found, so the node is
shown or hidden as before. Lists that are not inside the value keep their lengths.
-/

set_option autoImplicit false

namespace DeclarativeForm

open FieldPath

def Overlap (one two : List Segment) : Prop := one <+: two ∨ two <+: one

theorem Overlap.refl (segments : List Segment) : Overlap segments segments :=
  .inl (List.prefix_refl segments)

def Context.consulted (place : Context) (path : FieldPath) (values : Json) :
    List (List Segment) :=
  upToFirst (fun position => (getAt position values).isSome)
    (place.items.reverse.map (fun item => item.segments ++ path.segments) ++ [path.segments])

/-- Among the conditions of a node at a place there is one that comes to a value when it looks up
its path. -/
def Context.Reads (place : Context) (values : Json) (secret : FieldPath)
    (showWhen : Option ConditionGroup) : Prop :=
  ∃ group condition path, showWhen = some group ∧ condition ∈ group.conditions ∧
    parse condition.field = .ok path ∧
      ∃ position ∈ place.consulted path values, Overlap secret.segments position

/-- A search that finds the same in what it looks at finds the same. -/
private theorem findSome?_congr_upToFirst {α β : Type} {before after : α → Option β}
    {items : List α}
    (same : ∀ item ∈ upToFirst (fun item => (before item).isSome) items, after item = before item) :
    items.findSome? after = items.findSome? before := by
  induction items with
  | nil => rfl
  | cons item rest ih =>
      rw [upToFirst] at same
      rw [List.findSome?_cons, List.findSome?_cons]
      cases found : before item with
      | some value =>
          rw [found, Option.isSome_some, if_pos rfl] at same
          rw [same item (List.mem_singleton_self item), found]
      | none =>
          rw [found, Option.isSome_none, if_neg Bool.false_ne_true] at same
          rw [same item List.mem_cons_self, found]
          exact ih fun other member => same other (List.mem_cons_of_mem _ member)

private theorem Scope.find?_within_eq (root : Json) (items : List FieldPath) (path : FieldPath) :
    (within root items).find? path =
      (items.reverse.map (fun item => item.segments ++ path.segments) ++
        [path.segments]).findSome? fun position => getAt position root := by
  rw [Scope.find?_within, List.findSome?_append, List.findSome?_map, List.findSome?_singleton]
  rfl

private theorem length_items_setAt {segment : Segment} {rest : List Segment} {value found : Json}
    (isThere : getAt (segment :: rest) value = some found) (written : Json) :
    (setAt (segment :: rest) value written).items.length = value.items.length := by
  cases segment with
  | key name =>
      rw [getAt_key] at isThere
      obtain ⟨inner, isMember, _⟩ := Option.bind_eq_some_iff.mp isThere
      rw [setAt_key, items_of_member? isMember]
      rfl
  | index position =>
      rw [getAt_index] at isThere
      obtain ⟨inner, isItem, _⟩ := Option.bind_eq_some_iff.mp isThere
      obtain ⟨inRange, _⟩ := List.getElem?_eq_some_iff.mp isItem
      rw [setAt_index, Json.items_array, List.length_set, padded_eq_self inRange]

section Replaced

variable {secret : FieldPath} {values old : Json} (held : secret.get? values = some old)
  (new : Json)

include held

theorem getAt_set_of_not_overlap {position : List Segment}
    (apart : ¬Overlap secret.segments position) :
    getAt position (secret.set values new) = getAt position values := by
  obtain ⟨notBelow, notAbove⟩ := not_or.mp apart
  exact getAt_setAt_of_not_prefix held notAbove notBelow new

theorem isShown_set {place : Context} {showWhen : Option ConditionGroup}
    (unread : ¬place.Reads values secret showWhen) :
    isShown showWhen (place.scope (secret.set values new)) =
      isShown showWhen (place.scope values) := by
  refine isShown_congr fun group hasGroup condition member => ?_
  rw [Scope.lookup, Scope.lookup]
  cases parsed : parse condition.field with
  | error _ => rfl
  | ok path =>
      change (Scope.within _ _).find? path = (Scope.within _ _).find? path
      rw [Scope.find?_within_eq, Scope.find?_within_eq]
      refine findSome?_congr_upToFirst fun position looked => ?_
      refine getAt_set_of_not_overlap held new fun overlap => unread ?_
      exact ⟨group, condition, path, hasGroup, member, parsed, position, looked, overlap⟩

theorem itemCount_set_of_not_prefix {path : FieldPath}
    (outside : ¬secret.segments <+: path.segments) :
    itemCount path (secret.set values new) = itemCount path values := by
  by_cases around : path.segments <+: secret.segments
  · obtain ⟨back, whole⟩ := around
    rw [get?_eq, ← whole, getAt_append] at held
    obtain ⟨inner, isThere, below⟩ := Option.bind_eq_some_iff.mp held
    have after : path.get? (secret.set values new) = some (setAt back inner new) := by
      rw [get?_eq, FieldPath.set, ← whole, getAt_setAt_append, isThere, Option.getD_some]
    rw [itemCount_eq, itemCount_eq, after, get?_eq, isThere, Option.getD_some, Option.getD_some]
    cases back with
    | nil => exact absurd ⟨[], by rw [List.append_nil, ← whole, List.append_nil]⟩ outside
    | cons segment rest => exact length_items_setAt below new
  · have same : path.get? (secret.set values new) = path.get? values :=
      getAt_set_of_not_overlap held new (not_or.mpr ⟨outside, around⟩)
    rw [itemCount, itemCount, same]

end Replaced

end DeclarativeForm
