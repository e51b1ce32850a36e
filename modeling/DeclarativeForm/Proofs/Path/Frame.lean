import DeclarativeForm.Tree.Context

/-!
What a write leaves alone. Two paths are apart when they part at two names or at two indices. An
edit at a path changes one member on the way down to it and keeps the number of items of every list
it goes through; writing and removing a member are edits. What is under a path apart from the edited
one is the same after the edit.
-/

set_option autoImplicit false

namespace DeclarativeForm

theorem Json.find?_members (name : String) (value : Json) :
    Members.find? name value.members = value.member? name := by
  cases value <;> rfl

theorem Json.items_array (items : List Json) : (Json.array items).items = items := rfl

theorem Json.members_object (members : List (String × Json)) :
    (Json.object members).members = members := rfl

namespace FieldPath

/-! ### Reading -/

theorem get?_eq (path : FieldPath) (value : Json) :
    path.get? value = getAt path.segments value := rfl

theorem getAt_key (name : String) (rest : List Segment) (value : Json) :
    getAt (.key name :: rest) value = (value.member? name).bind (getAt rest) := by
  cases value <;> rfl

theorem getAt_index (position : Nat) (rest : List Segment) (value : Json) :
    getAt (.index position :: rest) value = value.items[position]?.bind (getAt rest) := by
  cases value <;> rfl

theorem getAt_append (front back : List Segment) (value : Json) :
    getAt (front ++ back) value = (getAt front value).bind (getAt back) := by
  induction front generalizing value with
  | nil => rfl
  | cons segment rest ih =>
      cases segment with
      | key name =>
          rw [List.cons_append, getAt_key, getAt_key, Option.bind_assoc]
          exact congrArg _ (funext ih)
      | index position =>
          rw [List.cons_append, getAt_index, getAt_index, Option.bind_assoc]
          exact congrArg _ (funext ih)

theorem get?_child (path : FieldPath) (name : String) (value : Json) :
    (path.child name).get? value = (path.get? value).bind fun inner => inner.member? name := by
  rw [child, get?, getAt_append, get?]
  congr 1
  funext inner
  rw [getAt_key]
  cases inner.member? name <;> rfl

theorem get?_item (path : FieldPath) (position : Nat) (value : Json) :
    (path.item position).get? value =
      (path.get? value).bind fun inner => inner.items[position]? := by
  rw [item, get?, getAt_append, get?]
  congr 1
  funext inner
  rw [getAt_index]
  cases inner.items[position]? <;> rfl

theorem items_of_member? {name : String} {value inner : Json}
    (found : value.member? name = some inner) : value.items = [] := by
  cases value with
  | object members => rfl
  | _ => cases found

theorem getAt_null {segments : List Segment} (below : segments ≠ []) :
    getAt segments .null = none := by
  cases segments with
  | nil => exact absurd rfl below
  | cons segment rest => cases segment <;> rfl

theorem bind_getAt {segments : List Segment} (below : segments ≠ []) (value : Option Json) :
    value.bind (getAt segments) = getAt segments (value.getD .null) := by
  cases value with
  | none => exact (getAt_null below).symm
  | some value => rfl

theorem getD_bind_getAt (segments : List Segment) (value : Option Json) :
    (value.bind (getAt segments)).getD .null = (getAt segments (value.getD .null)).getD .null := by
  cases segments with
  | nil => cases value <;> rfl
  | cons segment rest => rw [bind_getAt (List.cons_ne_nil _ _)]

theorem itemCount_eq (path : FieldPath) (values : Json) :
    itemCount path values = ((path.get? values).getD .null).items.length := by
  unfold itemCount
  cases path.get? values with
  | none => rfl
  | some value => cases value <;> rfl

/-! ### Items that are there -/

def Indexed : List Segment → Json → Prop
  | [], _ => True
  | .key name :: rest, value => Indexed rest ((value.member? name).getD .null)
  | .index position :: rest, value =>
    position < value.items.length ∧ Indexed rest (value.items[position]?.getD .null)

private theorem indexed_of_missingItemFrom {values : Json} {before : FieldPath}
    {segments : List Segment} (complete : missingItemFrom values before segments = none) :
    Indexed segments ((before.get? values).getD .null) := by
  induction segments generalizing before with
  | nil => trivial
  | cons segment rest ih =>
      cases segment with
      | key name =>
          have inner : Indexed rest (((before.child name).get? values).getD .null) := ih complete
          rw [get?, child, getAt_append, bind_getAt (List.cons_ne_nil _ _), getAt_key] at inner
          rw [Indexed, get?_eq]
          simpa [getAt] using inner
      | index position =>
          rw [missingItemFrom] at complete
          split at complete
          · cases complete
          · rename_i isThere
            have inner : Indexed rest (((before.item position).get? values).getD .null) :=
              ih complete
            rw [get?, item, getAt_append, bind_getAt (List.cons_ne_nil _ _), getAt_index] at inner
            rw [itemCount_eq, Nat.not_le] at isThere
            refine ⟨isThere, ?_⟩
            rw [get?_eq]
            simpa [getAt] using inner

theorem indexed_of_missingItem? {path : FieldPath} {values : Json}
    (complete : missingItem? path values = none) : Indexed path.segments values :=
  indexed_of_missingItemFrom complete

/-! ### Paths apart -/

/-- The paths part at two names or at two indices. -/
inductive Apart : List Segment → List Segment → Prop
  | key {first second : String} {one two : List Segment} (different : first ≠ second) :
      Apart (.key first :: one) (.key second :: two)
  | index {first second : Nat} {one two : List Segment} (different : first ≠ second) :
      Apart (.index first :: one) (.index second :: two)
  | step {segment : Segment} {one two : List Segment} (later : Apart one two) :
      Apart (segment :: one) (segment :: two)

theorem Apart.ne_nil {one two : List Segment} (apart : Apart one two) : two ≠ [] := by
  cases apart <;> exact List.cons_ne_nil _ _

theorem Apart.not_prefix {one two : List Segment} (apart : Apart one two) : ¬one <+: two := by
  induction apart with
  | key different =>
      intro start
      exact different (Segment.key.inj (List.cons_prefix_cons.mp start).1)
  | index different =>
      intro start
      exact different (Segment.index.inj (List.cons_prefix_cons.mp start).1)
  | step _ ih => exact fun start => ih (List.cons_prefix_cons.mp start).2

theorem Apart.symm {one two : List Segment} (apart : Apart one two) : Apart two one := by
  induction apart with
  | key different => exact .key different.symm
  | index different => exact .index different.symm
  | step _ ih => exact .step ih

/-! ### Edits -/

inductive EndsInKey : List Segment → Prop
  | last (name : String) : EndsInKey [.key name]
  | later (segment : Segment) {rest : List Segment} (ends : EndsInKey rest) :
      EndsInKey (segment :: rest)

inductive Edited : List Segment → Json → Json → Prop
  | here {name : String} {before after : Json}
      (others : ∀ other, other ≠ name → after.member? other = before.member? other) :
      Edited [.key name] before after
  | key {name : String} {rest : List Segment} {before after inside : Json}
      (others : ∀ other, other ≠ name → after.member? other = before.member? other)
      (isThere : after.member? name = some inside)
      (later : Edited rest ((before.member? name).getD .null) inside) :
      Edited (.key name :: rest) before after
  | index {position : Nat} {rest : List Segment} {before inner inside : Json}
      (isThere : before.items[position]? = some inner) (later : Edited rest inner inside) :
      Edited (.index position :: rest) before (.array (before.items.set position inside))

namespace Edited

variable {path other : List Segment} {before after : Json}

theorem getAt_of_apart (edited : Edited path before after) (apart : Apart path other) :
    getAt other after = getAt other before := by
  induction edited generalizing other with
  | here others =>
      cases apart with
      | key different => rw [getAt_key, getAt_key, others _ different.symm]
      | step later => cases later
  | key others isThere _ ih =>
      cases apart with
      | key different => rw [getAt_key, getAt_key, others _ different.symm]
      | step later =>
          rw [getAt_key, getAt_key, isThere, bind_getAt later.ne_nil, bind_getAt later.ne_nil]
          exact ih later
  | index isThere _ ih =>
      cases apart with
      | index different =>
          rw [getAt_index, getAt_index, Json.items_array, List.getElem?_set_ne different]
      | step later =>
          obtain ⟨inRange, _⟩ := List.getElem?_eq_some_iff.mp isThere
          rw [getAt_index, getAt_index, isThere, Json.items_array,
            List.getElem?_set_self inRange]
          exact ih later

theorem itemCount_eq {front back : List Segment} {position : Nat}
    (edited : Edited (front ++ .index position :: back) before after) :
    itemCount ⟨front⟩ after = itemCount ⟨front⟩ before := by
  rw [FieldPath.itemCount_eq, FieldPath.itemCount_eq]
  change ((getAt front after).getD .null).items.length =
    ((getAt front before).getD .null).items.length
  generalize whole : front ++ .index position :: back = path at edited
  induction edited generalizing front with
  | here others =>
      cases front with
      | nil => cases whole
      | cons segment rest =>
          have tail := List.tail_eq_of_cons_eq whole
          exact absurd tail (List.append_ne_nil_of_right_ne_nil _ (List.cons_ne_nil _ _))
  | @key name rest before after inside others isThere later ih =>
      cases front with
      | nil => cases whole
      | cons segment front =>
          have inner := ih (List.tail_eq_of_cons_eq whole)
          rw [List.head_eq_of_cons_eq whole, getAt_key, getAt_key, isThere]
          cases found : before.member? name with
          | some value =>
              rw [found] at inner
              exact inner
          | none =>
              rw [found] at inner
              cases front with
              | nil => exact inner
              | cons segment front =>
                  rw [Option.getD_none, getAt_null (List.cons_ne_nil _ _)] at inner
                  exact inner
  | @index place rest before inner inside isThere later ih =>
      obtain ⟨inRange, _⟩ := List.getElem?_eq_some_iff.mp isThere
      cases front with
      | nil => exact List.length_set
      | cons segment front =>
          have below := ih (List.tail_eq_of_cons_eq whole)
          rw [List.head_eq_of_cons_eq whole, getAt_index, getAt_index, isThere, Json.items_array,
            List.getElem?_set_self inRange]
          exact below

end Edited

/-! ### Writing -/

theorem padded_eq_self {items : List Json} {position : Nat} (inRange : position < items.length) :
    padded items position = items := by
  rw [padded, Nat.sub_eq_zero_of_le inRange, List.replicate_zero, List.append_nil]

theorem lt_length_padded (items : List Json) (position : Nat) :
    position < (padded items position).length := by
  rw [length_padded]
  omega

theorem getElem?_padded (items : List Json) (position other : Nat) :
    (padded items position)[other]? =
      if items.length ≤ other ∧ other ≤ position then some .null else items[other]? := by
  rw [padded, List.getElem?_append, List.getElem?_replicate]
  by_cases inside : other < items.length
  · rw [if_pos inside, if_neg (by omega)]
  · rw [if_neg inside, List.getElem?_eq_none (Nat.not_lt.mp inside)]
    by_cases added : other ≤ position
    · rw [if_pos (by omega), if_pos (by omega)]
    · rw [if_neg (by omega), if_neg (by omega)]

private theorem getD_padded (items : List Json) (position other : Nat) :
    (padded items position)[other]?.getD .null = items[other]?.getD .null := by
  rw [getElem?_padded]
  split
  · rename_i added
    rw [List.getElem?_eq_none added.1]
    rfl
  · rfl

section Steps

variable (rest : List Segment) (value written : Json)

theorem setAt_key (name : String) : setAt (.key name :: rest) value written =
    .object (Members.insert name (setAt rest ((value.member? name).getD .null) written)
      value.members) := by
  rw [setAt, Json.find?_members]

theorem setAt_index (position : Nat) : setAt (.index position :: rest) value written =
    .array ((padded value.items position).set position
      (setAt rest (value.items[position]?.getD .null) written)) := by
  rw [setAt, getD_padded]

theorem member?_setAt_self (name : String) :
    (setAt (.key name :: rest) value written).member? name =
      some (setAt rest ((value.member? name).getD .null) written) := by
  rw [setAt_key, Json.member?, Members.find?_insert_self]

theorem member?_setAt_other {name other : String} (different : other ≠ name) :
    (setAt (.key name :: rest) value written).member? other = value.member? other := by
  rw [setAt_key, Json.member?, Members.find?_insert_other different, Json.find?_members]

theorem items_setAt_self (position : Nat) :
    (setAt (.index position :: rest) value written).items[position]? =
      some (setAt rest (value.items[position]?.getD .null) written) := by
  rw [setAt_index, Json.items_array, List.getElem?_set_self (lt_length_padded _ _)]

theorem items_setAt_other {position other : Nat} (different : position ≠ other) :
    (setAt (.index position :: rest) value written).items[other]? =
      (padded value.items position)[other]? := by
  rw [setAt_index, Json.items_array, List.getElem?_set_ne different]

end Steps

/-- On the way to what it writes, a write goes on in what was there. -/
theorem getAt_setAt_append (front back : List Segment) (value written : Json) :
    getAt front (setAt (front ++ back) value written) =
      some (setAt back ((getAt front value).getD .null) written) := by
  induction front generalizing value with
  | nil => rfl
  | cons segment front ih =>
      cases segment with
      | key name =>
          rw [List.cons_append, getAt_key, getAt_key, member?_setAt_self, Option.bind_some, ih,
            getD_bind_getAt]
      | index position =>
          rw [List.cons_append, getAt_index, getAt_index, items_setAt_self, Option.bind_some, ih,
            getD_bind_getAt]

theorem getAt_setAt (path : List Segment) (value written : Json) :
    getAt path (setAt path value written) = some written := by
  have whole := getAt_setAt_append path [] value written
  rwa [List.append_nil] at whole

theorem setAt_edited {path : List Segment} {value : Json} (ends : EndsInKey path)
    (indexed : Indexed path value) (written : Json) :
    Edited path value (setAt path value written) := by
  induction ends generalizing value with
  | last name => exact .here fun other different => member?_setAt_other [] value written different
  | @later segment rest _ ih =>
      cases segment with
      | key name =>
          exact .key (fun other different => member?_setAt_other rest value written different)
            (member?_setAt_self rest value written name) (ih indexed)
      | index position =>
          obtain ⟨inRange, inner⟩ := indexed
          have isThere := List.getElem?_eq_getElem inRange
          rw [isThere, Option.getD_some] at inner
          rw [setAt_index, padded_eq_self inRange, isThere, Option.getD_some]
          exact .index isThere (ih inner)

/-- Where something is there already, a write is seen only on the way to it and below it. -/
theorem getAt_setAt_of_not_prefix {path other : List Segment} {value found : Json}
    (isThere : getAt path value = some found) (notAbove : ¬other <+: path)
    (notBelow : ¬path <+: other) (written : Json) :
    getAt other (setAt path value written) = getAt other value := by
  induction path generalizing other value with
  | nil => exact absurd List.nil_prefix notBelow
  | cons segment path ih =>
      rcases other with _ | ⟨next, other⟩
      · exact absurd List.nil_prefix notAbove
      · by_cases same : next = segment
        · subst same
          rw [List.prefix_cons_inj] at notAbove notBelow
          cases next with
          | key name =>
              rw [getAt_key] at isThere
              obtain ⟨inner, isMember, below⟩ := Option.bind_eq_some_iff.mp isThere
              rw [getAt_key, getAt_key, member?_setAt_self, isMember, Option.getD_some]
              exact ih below notAbove notBelow
          | index position =>
              rw [getAt_index] at isThere
              obtain ⟨inner, isItem, below⟩ := Option.bind_eq_some_iff.mp isThere
              rw [getAt_index, getAt_index, items_setAt_self, isItem, Option.getD_some]
              exact ih below notAbove notBelow
        · cases segment with
          | key name =>
              rw [getAt_key] at isThere
              obtain ⟨inner, isMember, _⟩ := Option.bind_eq_some_iff.mp isThere
              cases next with
              | key other =>
                  rw [getAt_key, getAt_key, member?_setAt_other _ _ _ (mt (congrArg _) same)]
              | index position =>
                  rw [getAt_index, getAt_index, setAt_key, items_of_member? isMember]
                  rfl
          | index position =>
              rw [getAt_index] at isThere
              obtain ⟨inner, isItem, _⟩ := Option.bind_eq_some_iff.mp isThere
              obtain ⟨inRange, _⟩ := List.getElem?_eq_some_iff.mp isItem
              cases next with
              | key name =>
                  cases value with
                  | array items => rfl
                  | _ => cases isItem
              | index other =>
                  rw [getAt_index, getAt_index,
                    items_setAt_other _ _ _ fun equal => same (congrArg _ equal.symm),
                    padded_eq_self inRange]

/-- A write below an item makes up the items that are missing before it. -/
theorem itemCount_set {front back : List Segment} {position : Nat} (value written : Json) :
    itemCount ⟨front⟩ (setAt (front ++ .index position :: back) value written) =
      max (itemCount ⟨front⟩ value) (position + 1) := by
  rw [itemCount_eq, itemCount_eq, get?_eq, get?_eq, getAt_setAt_append, Option.getD_some,
    setAt_index, Json.items_array, List.length_set, length_padded]

theorem itemCount_key (name : String) (front : List Segment) (value : Json) :
    itemCount ⟨.key name :: front⟩ value =
      itemCount ⟨front⟩ ((value.member? name).getD .null) := by
  rw [itemCount_eq, itemCount_eq, get?_eq, get?_eq, getAt_key, getD_bind_getAt]

theorem itemCount_index (position : Nat) (front : List Segment) (value : Json) :
    itemCount ⟨.index position :: front⟩ value =
      itemCount ⟨front⟩ (value.items[position]?.getD .null) := by
  rw [itemCount_eq, itemCount_eq, get?_eq, get?_eq, getAt_index, getD_bind_getAt]

/-- Every index has an item when the lists on the way hold enough of them. -/
theorem indexed_iff {segments : List Segment} {value : Json} :
    Indexed segments value ↔ ∀ front position back, segments = front ++ .index position :: back →
      position < itemCount ⟨front⟩ value := by
  induction segments generalizing value with
  | nil =>
      refine ⟨fun _ front position back whole => ?_, fun _ => trivial⟩
      exact absurd whole.symm (List.append_ne_nil_of_right_ne_nil _ (List.cons_ne_nil _ _))
  | cons segment rest ih =>
      cases segment with
      | key name =>
          rw [Indexed, ih]
          constructor
          · intro inside front position back whole
            cases front with
            | nil => cases whole
            | cons here front =>
                rw [← List.head_eq_of_cons_eq whole, itemCount_key]
                exact inside front position back (List.tail_eq_of_cons_eq whole)
          · intro all front position back whole
            rw [← itemCount_key]
            exact all (.key name :: front) position back (congrArg _ whole)
      | index place =>
          have here : itemCount ⟨[]⟩ value = value.items.length := itemCount_eq ⟨[]⟩ value
          rw [Indexed, ih]
          constructor
          · rintro ⟨inRange, inside⟩ front position back whole
            cases front with
            | nil =>
                cases whole
                rw [here]
                exact inRange
            | cons segment front =>
                rw [← List.head_eq_of_cons_eq whole, itemCount_index]
                exact inside front position back (List.tail_eq_of_cons_eq whole)
          · intro all
            refine ⟨here ▸ all [] place rest rfl, fun front position back whole => ?_⟩
            rw [← itemCount_index]
            exact all (.index place :: front) position back (congrArg _ whole)

/-! ### Removing -/

/-- What a removal does to the value it removes from: if nothing was there it gives nothing. -/
private def RemovesFrom (path : List Segment) (value : Json) : Option (Json × Json) → Prop
  | none => getAt path value = none
  | some (_, left) => Edited path value left ∧ getAt path left = none

private theorem removeAt_key {next : Segment} {tail : List Segment}
    (below : ∀ inner, RemovesFrom (next :: tail) inner (removeAt (next :: tail) inner))
    (name : String) (value : Json) :
    RemovesFrom (.key name :: next :: tail) value (removeAt (.key name :: next :: tail) value) := by
  cases value with
  | object members =>
      simp only [removeAt]
      cases found : Members.find? name members with
      | none => simp only [RemovesFrom, getAt, found, Option.bind_none, bind]
      | some inner =>
          have inside := below inner
          cases removal : removeAt (next :: tail) inner with
          | none =>
              rw [removal] at inside
              simp only [getAt, found, removal, Option.bind_none, Option.bind_some, bind,
                RemovesFrom]
              exact inside
          | some result =>
              obtain ⟨removed, left⟩ := result
              rw [removal] at inside
              have isThere := Members.find?_replace_self name left members
                (by rw [found]; rfl)
              simp only [removal, Option.bind_some, bind]
              refine ⟨.key ?_ isThere ?_, ?_⟩
              · intro other different
                exact Members.find?_replace_other different left members
              · rw [Json.member?, found]
                exact inside.1
              · rw [getAt_key, Json.member?, isThere]
                exact inside.2
  | _ => rfl

private theorem removeAt_index {next : Segment} {tail : List Segment}
    (below : ∀ inner, RemovesFrom (next :: tail) inner (removeAt (next :: tail) inner))
    (position : Nat) (value : Json) :
    RemovesFrom (.index position :: next :: tail) value
      (removeAt (.index position :: next :: tail) value) := by
  cases value with
  | array items =>
      simp only [removeAt]
      cases found : items[position]? with
      | none => simp only [RemovesFrom, getAt, found, Option.bind_none, bind]
      | some inner =>
          have inside := below inner
          cases removal : removeAt (next :: tail) inner with
          | none =>
              rw [removal] at inside
              simp only [getAt, found, removal, Option.bind_none, Option.bind_some, bind,
                RemovesFrom]
              exact inside
          | some result =>
              obtain ⟨removed, left⟩ := result
              rw [removal] at inside
              obtain ⟨inRange, _⟩ := List.getElem?_eq_some_iff.mp found
              simp only [removal, Option.bind_some, bind]
              refine ⟨.index found inside.1, ?_⟩
              rw [getAt_index, Json.items_array, List.getElem?_set_self inRange]
              exact inside.2
  | _ => rfl

private theorem removeAt_spec {path : List Segment} (ends : EndsInKey path) (value : Json) :
    RemovesFrom path value (removeAt path value) := by
  induction ends generalizing value with
  | last name =>
      cases value with
      | object members =>
          simp only [removeAt]
          cases found : Members.find? name members with
          | none => simp only [RemovesFrom, getAt, found, Option.bind_none, Option.map_none]
          | some inner =>
              refine ⟨.here fun other different => ?_, ?_⟩
              · exact Members.find?_erase_other different members
              · simp only [getAt, Members.find?_erase_self, Option.bind_none]
      | _ => rfl
  | @later segment rest ends ih =>
      obtain ⟨next, tail, rfl⟩ : ∃ next tail, rest = next :: tail := by
        cases ends <;> exact ⟨_, _, rfl⟩
      cases segment with
      | key name => exact removeAt_key ih name value
      | index position => exact removeAt_index ih position value

theorem getAt_of_removeAt {path : List Segment} {value removed left : Json}
    (done : removeAt path value = some (removed, left)) : getAt path value = some removed := by
  fun_induction removeAt path value generalizing removed left
  case case1 name members =>
      obtain ⟨inner, found, same⟩ := Option.map_eq_some_iff.mp done
      cases same
      rw [getAt, found]
      rfl
  case case2 position items =>
      obtain ⟨inner, found, same⟩ := Option.map_eq_some_iff.mp done
      cases same
      rw [getAt, found]
      rfl
  case case3 name next rest members ih =>
      obtain ⟨inner, found, later⟩ := Option.bind_eq_some_iff.mp done
      obtain ⟨⟨taken, left⟩, removal, same⟩ := Option.bind_eq_some_iff.mp later
      cases same
      rw [getAt, found]
      exact ih inner removal
  case case4 position next rest items ih =>
      obtain ⟨inner, found, later⟩ := Option.bind_eq_some_iff.mp done
      obtain ⟨⟨taken, left⟩, removal, same⟩ := Option.bind_eq_some_iff.mp later
      cases same
      rw [getAt, found]
      exact ih inner removal
  case case5 => cases done

theorem without_eq_self {path : FieldPath} {value : Json} (absent : path.get? value = none) :
    path.without value = value := by
  unfold without remove?
  cases done : removeAt path.segments value with
  | none => rfl
  | some result =>
      rw [get?, getAt_of_removeAt done] at absent
      cases absent

theorem get?_without {path : FieldPath} (ends : EndsInKey path.segments) (value : Json) :
    path.get? (path.without value) = none := by
  have spec := removeAt_spec ends value
  unfold without remove?
  cases removal : removeAt path.segments value with
  | none =>
      rw [removal] at spec
      exact spec
  | some result =>
      rw [removal] at spec
      exact spec.2

theorem without_edited {path : FieldPath} (ends : EndsInKey path.segments) {value : Json}
    (isThere : path.get? value ≠ none) :
    Edited path.segments value (path.without value) := by
  have spec := removeAt_spec ends value
  unfold without remove?
  cases removal : removeAt path.segments value with
  | none =>
      rw [removal] at spec
      exact absurd spec isThere
  | some result =>
      rw [removal] at spec
      exact spec.1

end FieldPath

end DeclarativeForm
