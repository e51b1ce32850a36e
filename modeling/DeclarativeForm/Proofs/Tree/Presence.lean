import DeclarativeForm.Proofs.Tree.Key

/-!
Keys of places that are there. A key of a form is present in some values when every item is there
that its path leads through. It stays present as long as no repeatable loses items, and after the
removal of an item it is present where it has moved to. An item that is yet to be added has no
present keys.
-/

set_option autoImplicit false

namespace DeclarativeForm

open FieldPath

variable {fields : List Node} {context : Context} {segments : List Segment} {located : Located}
  {before after values : Json}

/-! ### Lists on the way -/

theorem Addresses.exists_list (addresses : Addresses fields context segments located)
    {front back : List Segment} {position : Nat}
    (whole : segments = front ++ .index position :: back) :
    ∃ head template place, Addresses fields context front ⟨.repeatable head template, place⟩ := by
  induction addresses generalizing front with
  | here found =>
      rcases front with _ | ⟨segment, front⟩
      · cases whole
      · exact absurd (List.tail_eq_of_cons_eq whole).symm
          (List.append_ne_nil_of_right_ne_nil _ (List.cons_ne_nil _ _))
  | @inside fields template context name head place rest located found later ih =>
      rcases front with _ | ⟨segment, _ | ⟨next, front⟩⟩
      · cases whole
      · cases List.head_eq_of_cons_eq whole
        exact ⟨head, template, context, .here found⟩
      · cases List.head_eq_of_cons_eq whole
        have below := List.tail_eq_of_cons_eq whole
        cases List.head_eq_of_cons_eq below
        obtain ⟨outer, nodes, around, there⟩ := ih (List.tail_eq_of_cons_eq below)
        exact ⟨outer, nodes, around, .inside found there⟩

theorem IsKeyPath.exists_list {path : FieldPath} (isKey : IsKeyPath fields path)
    {front back : List Segment} {position : Nat}
    (whole : path.segments = front ++ .index position :: back) :
    ∃ head template place, Addresses fields .root front ⟨.repeatable head template, place⟩ := by
  cases isKey with
  | node addresses single => exact addresses.exists_list whole
  | @step path flow context addresses id =>
      change path.segments ++ [.key id] = _ at whole
      rcases List.eq_nil_or_concat back with rfl | ⟨back, last, rfl⟩
      · cases (List.append_inj' whole rfl).2
      · rw [List.concat_eq_append, ← List.cons_append, ← List.append_assoc] at whole
        exact addresses.exists_list (List.append_inj' whole rfl).1

theorem FieldPath.Indexed.append_key (isThere : Indexed segments values) (name : String) :
    Indexed (segments ++ [.key name]) values := by
  induction segments generalizing values with
  | nil => trivial
  | cons segment rest ih =>
      cases segment with
      | key other => exact ih isThere
      | index position => exact ⟨isThere.1, ih isThere.2⟩

/-! ### Present keys -/

def RetainsItems (fields : List Node) (before after : Json) : Prop :=
  ∀ (path : FieldPath) (head : Repeatable) (template : List Node) (place : Context),
    Addresses fields .root path.segments ⟨.repeatable head template, place⟩ →
    itemCount path before ≤ itemCount path after

theorem RetainsItems.refl (fields : List Node) (values : Json) :
    RetainsItems fields values values := fun _ _ _ _ _ => Nat.le_refl _

theorem FieldPath.Indexed.retained (isThere : Indexed segments before)
    (lists : ∀ (front back : List Segment) (position : Nat),
      segments = front ++ .index position :: back →
      ∃ head template place, Addresses fields .root front ⟨.repeatable head template, place⟩)
    (retains : RetainsItems fields before after) : Indexed segments after := by
  refine indexed_iff.mpr fun front position back whole => ?_
  obtain ⟨head, template, place, isList⟩ := lists front back position whole
  exact Nat.lt_of_lt_of_le (indexed_iff.mp isThere front position back whole)
    (retains ⟨front⟩ head template place isList)

/-- The text of a path that leads through items that are there, and that tables are keyed by. -/
def IsPresent (fields : List Node) (values : Json) (key : String) : Prop :=
  ∃ path, IsKeyPath fields path ∧ Indexed path.segments values ∧ path.text = key

theorem Addresses.isPresent {path : FieldPath}
    (addresses : Addresses fields .root path.segments located)
    (single : located.node.isGroup = false) (isThere : Indexed path.segments values) :
    IsPresent fields values path.text :=
  ⟨path, .node addresses single, isThere, rfl⟩

theorem Addresses.isPresent_step {path : FieldPath} {flow : Flow}
    (addresses : Addresses fields .root path.segments ⟨.flow flow, context⟩)
    (isThere : Indexed path.segments values) (id : String) :
    IsPresent fields values (path.text ++ "." ++ id) :=
  ⟨path.child id, .step addresses id, isThere.append_key id, text_child addresses.ne_nil id⟩

namespace IsPresent

variable {key : String}

theorem mono (present : IsPresent fields before key)
    (retains : RetainsItems fields before after) : IsPresent fields after key := by
  obtain ⟨path, isKey, isThere, text⟩ := present
  exact ⟨path, isKey, isThere.retained (fun _ _ _ whole => isKey.exists_list whole) retains, text⟩

section Lists

variable {list : FieldPath} {head : Repeatable} {template : List Node} {place : Context}
  (named : WellNamed fields)
  (isList : Addresses fields .root list.segments ⟨.repeatable head template, place⟩)

include named isList

/-- A present key that is moved by the removal of an item is present where it has moved to. -/
theorem reindexKey {removed : Nat} {moved : String} (present : IsPresent fields before key)
    (erased : Erased removed list.segments before after)
    (moves : DeclarativeForm.reindexKey key list.text removed = some moved) :
    IsPresent fields after moved := by
  obtain ⟨path, isKey, isThere, rfl⟩ := present
  rw [isKey.reindexKey_text named isList] at moves
  obtain ⟨target, lands, rfl⟩ := Option.map_eq_some_iff.mp moves
  have isKeyStill := isKey.afterRemoval lands
  obtain ⟨segments, shifted, rfl⟩ := Option.map_eq_some_iff.mp lands
  exact ⟨⟨segments⟩, isKeyStill, erased.indexed isThere shifted, rfl⟩

/-- A key under an item leads through that item. -/
theorem lt_itemCount_of_isUnder {position : Nat} (present : IsPresent fields values key)
    (under : isUnder key (list.item position).text = true) : position < itemCount list values := by
  obtain ⟨path, isKey, isThere, rfl⟩ := present
  have filled := (isList.alternating named rfl).ne_nil
  have text : (list.item position).text.toList =
      characters list.segments ++ '[' :: (numeral position ++ [']']) := by
    rw [toList_text, item, characters_item filled, List.flatMap_nil]
  rw [isUnder, text, toList_text] at under
  obtain ⟨rest, stripped⟩ : ∃ rest, stripStart
      (characters list.segments ++ '[' :: (numeral position ++ [']'])) (characters path.segments) =
        some rest := by
    cases stripped : stripStart (characters list.segments ++ '[' :: (numeral position ++ [']']))
        (characters path.segments) with
    | none =>
        rw [stripped] at under
        cases under
    | some rest => exact ⟨rest, rfl⟩
  have whole := stripStart_eq_some stripped
  simp only [List.append_assoc, List.cons_append, List.nil_append] at whole
  obtain ⟨other, later, split⟩ := isKey.showsItem named isList _ whole
  rw [split, characters_item filled, List.append_cancel_left_eq] at whole
  obtain ⟨same, _⟩ := index_append_injective (List.tail_eq_of_cons_eq whole)
  exact same ▸ indexed_iff.mp isThere list.segments other later split

end Lists

end IsPresent

/-! ### Writes that retain items -/

/-- The path of a node is apart from that of a repeatable or goes on from it, unless the node is
that repeatable or one around it. -/
theorem Addresses.compare_list {one two : List Segment} {head : Repeatable} {template : List Node}
    {place : Context} (first : Addresses fields context one located)
    (second : Addresses fields context two ⟨.repeatable head template, place⟩) :
    Apart one two ∨ (∃ position back, one = two ++ .index position :: back) ∨
      (∃ outer nodes, located.node = .repeatable outer nodes) ∧
        (one = two ∨ ∃ position back, two = one ++ .index position :: back) := by
  induction first generalizing two with
  | @here fields context name node found =>
      cases second with
      | @here _ _ otherName _ otherFound =>
          by_cases same : name = otherName
          · subst otherName
            rw [found] at otherFound
            cases otherFound
            exact Or.inr (Or.inr ⟨⟨head, template, rfl⟩, Or.inl rfl⟩)
          · exact Or.inl (.key same)
      | @inside _ otherTemplate _ otherName otherHead position rest _ otherFound _ =>
          by_cases same : name = otherName
          · subst otherName
            rw [found] at otherFound
            cases otherFound
            exact Or.inr (Or.inr ⟨⟨otherHead, otherTemplate, rfl⟩, Or.inr ⟨position, rest, rfl⟩⟩)
          · exact Or.inl (.key same)
  | @inside fields template context name head position rest located found _ ih =>
      cases second with
      | @here _ _ otherName _ otherFound =>
          by_cases same : name = otherName
          · subst otherName
            exact Or.inr (Or.inl ⟨position, rest, rfl⟩)
          · exact Or.inl (.key same)
      | @inside _ otherTemplate _ otherName otherHead otherPosition _ _ otherFound otherLater =>
          by_cases same : name = otherName
          · subst otherName
            rw [found] at otherFound
            cases otherFound
            by_cases samePosition : position = otherPosition
            · subst otherPosition
              rcases ih otherLater with
                apart | ⟨index, back, rfl⟩ | ⟨isList, rfl | ⟨index, back, rfl⟩⟩
              · exact Or.inl (.step (.step apart))
              · exact Or.inr (Or.inl ⟨index, back, rfl⟩)
              · exact Or.inr (Or.inr ⟨isList, Or.inl rfl⟩)
              · exact Or.inr (Or.inr ⟨isList, Or.inr ⟨index, back, rfl⟩⟩)
            · exact Or.inl (.step (.index samePosition))
          · exact Or.inl (.key same)

theorem FieldPath.Edited.retainsItems {path : FieldPath}
    (edited : Edited path.segments before after)
    (addresses : Addresses fields .root path.segments located)
    (lists : (∃ head template, located.node = .repeatable head template) →
      ∀ other : List Segment, (path.segments = other ∨
        ∃ position back, other = path.segments ++ .index position :: back) →
      itemCount ⟨other⟩ before ≤ itemCount ⟨other⟩ after) :
    RetainsItems fields before after := by
  intro other head template place there
  rcases addresses.compare_list there with apart | ⟨position, back, below⟩ | ⟨isList, inside⟩
  · have untouched := edited.getAt_of_apart apart
    refine Nat.le_of_eq ?_
    rw [FieldPath.itemCount_eq, FieldPath.itemCount_eq, get?_eq, get?_eq, untouched]
  · rw [below] at edited
    exact Nat.le_of_eq edited.itemCount_eq.symm
  · exact lists isList other.segments inside

def FieldPath.itemsAt (path : FieldPath) (values : Json) : List Json :=
  ((path.get? values).getD .null).items

/-- A write of the items that are there with another one behind them retains all items. -/
theorem retainsItems_append {path : FieldPath}
    (addresses : Addresses fields .root path.segments located)
    (isThere : Indexed path.segments values) (added : Json) :
    RetainsItems fields values (path.set values (.array (path.itemsAt values ++ [added]))) := by
  have edited := setAt_edited addresses.endsInKey isThere
    (.array (path.itemsAt values ++ [added]))
  refine edited.retainsItems addresses fun _ other inside => ?_
  have written := getAt_setAt path.segments values (.array (path.itemsAt values ++ [added]))
  rw [itemCount_eq, itemCount_eq, get?_eq, get?_eq]
  rcases inside with rfl | ⟨position, back, rfl⟩
  · rw [written, Option.getD_some, Json.items_array, List.length_append]
    exact Nat.le_add_right _ _
  · rw [getAt_append, getAt_append, written, Option.bind_some, getAt_index, Json.items_array]
    cases found : getAt path.segments values with
    | none => exact Nat.zero_le _
    | some value =>
        rw [itemsAt, get?_eq, found, Option.bind_some, Option.getD_some, getAt_index]
        by_cases inRange : position < value.items.length
        · exact Nat.le_of_eq (by rw [List.getElem?_append_left inRange])
        · rw [List.getElem?_eq_none (Nat.le_of_not_lt inRange)]
          exact Nat.zero_le _

end DeclarativeForm
