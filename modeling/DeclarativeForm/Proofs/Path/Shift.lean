import DeclarativeForm.Path.Reader
import DeclarativeForm.Proofs.Path.Frame

/-!
The removal of an item. Paths below the item lead nowhere any more, those below later items move one
item down, and what a path led to before is found at the path it moves to. Only the lists and
objects around the item are different, and of these only the list itself has another number of
items.
-/

set_option autoImplicit false

namespace DeclarativeForm.FieldPath

/-- Where a position of a list moves once an item is gone: nowhere if it is that of the item, one
down if it is later. A position that is too large for an index stays. -/
def movedPosition (removed position : Nat) : Option Nat :=
  if indexLimit ≤ position then some position
  else if position = removed then none
  else if removed < position then some (position - 1)
  else some position

def shift (removed : Nat) : List Segment → List Segment → Option (List Segment)
  | [], .index position :: rest =>
    (movedPosition removed position).map fun position => .index position :: rest
  | here :: list, segment :: rest =>
    if segment = here then (shift removed list rest).map (segment :: ·) else some (segment :: rest)
  | _, path => some path

def afterRemoval (list : FieldPath) (removed : Nat) (path : FieldPath) : Option FieldPath :=
  (shift removed list.segments path.segments).map FieldPath.mk

variable {removed : Nat} {list path moved : List Segment}

theorem shift_nil (removed : Nat) (list : List Segment) : shift removed list [] = some [] := by
  cases list <;> rfl

/-- What is appended to a path stays, unless it goes on towards the list. -/
theorem shift_append {tail : List Segment}
    (keeps : ∀ later, list = path ++ later → shift removed later tail = some tail) :
    shift removed list (path ++ tail) = (shift removed list path).map (· ++ tail) := by
  induction path generalizing list with
  | nil =>
      rw [List.nil_append, keeps list rfl, shift_nil]
      rfl
  | cons segment path ih =>
      cases list with
      | nil =>
          cases segment with
          | key name => rfl
          | index position =>
              rw [List.cons_append, shift, shift, Option.map_map]
              rfl
      | cons here list =>
          by_cases same : segment = here
          · have later : ∀ later, list = path ++ later → shift removed later tail = some tail := by
              rintro later rfl
              exact keeps later (by rw [same, List.cons_append])
            rw [List.cons_append, shift, shift, if_pos same, if_pos same, ih later,
              Option.map_map, Option.map_map]
            rfl
          · rw [List.cons_append, shift, shift, if_neg same, if_neg same]
            rfl

theorem shift_append_name (removed : Nat) (list path : List Segment) (name : String) :
    shift removed list (path ++ [.key name]) =
      (shift removed list path).map (· ++ [.key name]) := by
  apply shift_append
  rintro (_ | ⟨here, later⟩) _
  · rfl
  · by_cases same : Segment.key name = here
    · rw [shift, if_pos same, shift_nil]
      rfl
    · rw [shift, if_neg same]

theorem shift_append_key {name : String} (free : .key name ∉ list) (removed : Nat)
    (path rest : List Segment) :
    shift removed list (path ++ .key name :: rest) =
      (shift removed list path).map (· ++ .key name :: rest) := by
  apply shift_append
  rintro (_ | ⟨here, later⟩) rfl
  · rfl
  · have different : Segment.key name ≠ here := by
      rintro rfl
      exact free (List.mem_append_right _ List.mem_cons_self)
    rw [shift, if_neg different]

theorem shift_append_item (other : path ≠ list) (removed position : Nat) :
    shift removed list (path ++ [.index position]) =
      (shift removed list path).map (· ++ [.index position]) := by
  apply shift_append
  rintro (_ | ⟨here, later⟩) whole
  · rw [List.append_nil] at whole
    exact absurd whole.symm other
  · by_cases same : Segment.index position = here
    · rw [shift, if_pos same, shift_nil]
      rfl
    · rw [shift, if_neg same]

theorem shift_item (removed : Nat) (list : List Segment) (position : Nat) (rest : List Segment) :
    shift removed list (list ++ .index position :: rest) =
      (movedPosition removed position).map fun position => list ++ .index position :: rest := by
  induction list with
  | nil => rfl
  | cons here list ih =>
      rw [List.cons_append, shift, if_pos rfl, ih, Option.map_map]
      rfl

theorem shift_front (removed : Nat) (path later : List Segment) :
    shift removed (path ++ later) path = some path := by
  induction path with
  | nil => exact shift_nil removed later
  | cons segment path ih =>
      rw [List.cons_append, shift, if_pos rfl, ih]
      rfl

theorem shift_eq_self (outside : ¬∃ position rest, path = list ++ .index position :: rest) :
    shift removed list path = some path := by
  induction list generalizing path with
  | nil =>
      cases path with
      | nil => rfl
      | cons segment rest =>
          cases segment with
          | key name => rfl
          | index position => exact absurd ⟨position, rest, rfl⟩ outside
  | cons here list ih =>
      cases path with
      | nil => rfl
      | cons segment path =>
          by_cases same : segment = here
          · subst same
            have later : ¬∃ position rest, path = list ++ .index position :: rest := by
              rintro ⟨position, rest, rfl⟩
              exact outside ⟨position, rest, rfl⟩
            rw [shift, if_pos rfl, ih later]
            rfl
          · rw [shift, if_neg same]

theorem movedPosition_injective {one two position : Nat}
    (first : movedPosition removed one = some position)
    (second : movedPosition removed two = some position) : one = two := by
  unfold movedPosition at first second
  grind

theorem eq_of_shift_item {position : Nat} {rest : List Segment}
    (moves : shift removed list (list ++ .index position :: rest) = some moved) :
    ∃ later, movedPosition removed position = some later ∧
      moved = list ++ .index later :: rest := by
  rw [shift_item] at moves
  obtain ⟨later, found, same⟩ := Option.map_eq_some_iff.mp moves
  exact ⟨later, found, same.symm⟩

/-! ### Values -/

inductive Erased (removed : Nat) : List Segment → Json → Json → Prop
  | here {items : List Json} (inRange : removed < items.length)
      (few : items.length ≤ indexLimit) :
      Erased removed [] (.array items) (.array (items.eraseIdx removed))
  | key {name : String} {list : List Segment} {before after inner inside : Json}
      (others : ∀ other, other ≠ name → after.member? other = before.member? other)
      (found : before.member? name = some inner) (isThere : after.member? name = some inside)
      (later : Erased removed list inner inside) :
      Erased removed (.key name :: list) before after
  | index {position : Nat} {list : List Segment} {items : List Json} {inner inside : Json}
      (found : items[position]? = some inner) (later : Erased removed list inner inside) :
      Erased removed (.index position :: list) (.array items) (.array (items.set position inside))

namespace Erased

variable {before after : Json}

private theorem getElem?_eraseIdx {items : List Json} (inRange : removed < items.length)
    (few : items.length ≤ indexLimit) {position later : Nat}
    (moves : movedPosition removed position = some later) :
    (items.eraseIdx removed)[later]? = items[position]? := by
  rw [List.getElem?_eraseIdx]
  unfold movedPosition at moves
  split at moves
  · cases moves
    have outside : items.length ≤ position + 1 := by omega
    rw [if_neg (by omega), List.getElem?_eq_none outside, List.getElem?_eq_none (by omega)]
  · split at moves
    · cases moves
    · split at moves
      · cases moves
        rw [if_neg (by omega), Nat.sub_add_cancel (by omega)]
      · cases moves
        rw [if_pos (by omega)]

/-- What a path led to is found where the path leads now, if the list is not on the way. -/
theorem getAt_eq (erased : Erased removed list before after) (apart : ¬path <+: list)
    (moves : shift removed list path = some moved) : getAt moved after = getAt path before := by
  induction erased generalizing path moved with
  | @here items inRange few =>
      rcases path with _ | ⟨⟨name⟩ | ⟨position⟩, rest⟩
      · exact absurd (List.prefix_refl _) apart
      · cases moves
        rfl
      · obtain ⟨later, found, rfl⟩ := Option.map_eq_some_iff.mp moves
        rw [getAt_index, getAt_index, Json.items_array, Json.items_array,
          getElem?_eraseIdx inRange few found]
  | @key name list before after inner inside others found isThere _ ih =>
      rcases path with _ | ⟨segment, rest⟩
      · exact absurd List.nil_prefix apart
      · by_cases same : segment = .key name
        -- The path goes on towards the list, or it parts from the way here and is as before.
        · subst same
          rw [shift, if_pos rfl] at moves
          obtain ⟨below, isBelow, rfl⟩ := Option.map_eq_some_iff.mp moves
          have inside : ¬rest <+: list := by
            intro within
            exact apart (List.prefix_cons_inj _ |>.mpr within)
          rw [getAt_key, getAt_key, found, isThere]
          exact ih inside isBelow
        · rw [shift, if_neg same] at moves
          cases moves
          cases segment with
          | key other =>
              have different : other ≠ name := fun equal => same (congrArg _ equal)
              rw [getAt_key, getAt_key, others other different]
          | index position =>
              rw [getAt_index, getAt_index, items_of_member? found, items_of_member? isThere]
  | @index position list items inner inside found _ ih =>
      rcases path with _ | ⟨segment, rest⟩
      · exact absurd List.nil_prefix apart
      · by_cases same : segment = .index position
        · subst same
          rw [shift, if_pos rfl] at moves
          obtain ⟨below, isBelow, rfl⟩ := Option.map_eq_some_iff.mp moves
          have inside : ¬rest <+: list := by
            intro within
            exact apart (List.prefix_cons_inj _ |>.mpr within)
          obtain ⟨inRange, _⟩ := List.getElem?_eq_some_iff.mp found
          rw [getAt_index, getAt_index, Json.items_array, Json.items_array,
            List.getElem?_set_self inRange, found]
          exact ih inside isBelow
        · rw [shift, if_neg same] at moves
          cases moves
          cases segment with
          | key other => rfl
          | index other =>
              have different : position ≠ other := fun equal => same (congrArg _ equal.symm)
              rw [getAt_index, getAt_index, Json.items_array, Json.items_array,
                List.getElem?_set_ne different]

private theorem length_on_way {later : List Segment} (below : later ≠ [])
    (erased : Erased removed (path ++ later) before after) :
    ((getAt path after).getD .null).items.length =
      ((getAt path before).getD .null).items.length := by
  generalize whole : path ++ later = list at erased
  induction erased generalizing path with
  | here =>
      obtain ⟨_, none⟩ := List.append_eq_nil_iff.mp whole
      exact absurd none below
  | key others found isThere _ ih =>
      cases path with
      | nil =>
          have none := items_of_member? found
          have still := items_of_member? isThere
          simp only [getAt, Option.getD_some, none, still]
      | cons segment path =>
          have inner := ih (List.tail_eq_of_cons_eq whole)
          rw [List.head_eq_of_cons_eq whole, getAt_key, getAt_key, found, isThere]
          exact inner
  | index found _ ih =>
      cases path with
      | nil => exact List.length_set
      | cons segment path =>
          obtain ⟨inRange, _⟩ := List.getElem?_eq_some_iff.mp found
          have inner := ih (List.tail_eq_of_cons_eq whole)
          rw [List.head_eq_of_cons_eq whole, getAt_index, getAt_index, Json.items_array,
            Json.items_array, List.getElem?_set_self inRange, found]
          exact inner

theorem itemCount_eq (erased : Erased removed list before after) (other : path ≠ list)
    (moves : shift removed list path = some moved) :
    itemCount ⟨moved⟩ after = itemCount ⟨path⟩ before := by
  rw [FieldPath.itemCount_eq, FieldPath.itemCount_eq, get?_eq, get?_eq]
  by_cases within : path <+: list
  · obtain ⟨later, rfl⟩ := within
    rw [shift_front] at moves
    cases moves
    refine length_on_way ?_ erased
    rintro rfl
    exact other (List.append_nil path).symm
  · rw [erased.getAt_eq within moves]

theorem itemCount_list (erased : Erased removed list before after) :
    itemCount ⟨list⟩ before = itemCount ⟨list⟩ after + 1 ∧ removed < itemCount ⟨list⟩ before ∧
      itemCount ⟨list⟩ before ≤ indexLimit := by
  rw [FieldPath.itemCount_eq, FieldPath.itemCount_eq, get?_eq, get?_eq]
  induction erased with
  | @here items inRange few =>
      have length := List.length_eraseIdx_of_lt inRange
      simp only [getAt, Option.getD_some, Json.items_array]
      omega
  | key others found isThere _ ih =>
      rw [getAt_key, getAt_key, found, isThere]
      exact ih
  | index found _ ih =>
      obtain ⟨inRange, _⟩ := List.getElem?_eq_some_iff.mp found
      rw [getAt_index, getAt_index, Json.items_array, Json.items_array,
        List.getElem?_set_self inRange, found]
      exact ih

theorem indexed (erased : Erased removed list before after) (isThere : Indexed path before)
    (moves : shift removed list path = some moved) : Indexed moved after := by
  induction erased generalizing path moved with
  | @here items inRange few =>
      rcases path with _ | ⟨⟨name⟩ | ⟨position⟩, rest⟩
      · cases moves
        trivial
      · cases moves
        exact isThere
      · obtain ⟨later, found, rfl⟩ := Option.map_eq_some_iff.mp moves
        obtain ⟨inItems, inside⟩ := isThere
        have inItems : position < items.length := inItems
        refine ⟨?_, ?_⟩
        · have length := List.length_eraseIdx_of_lt inRange
          rw [Json.items_array]
          unfold movedPosition at found
          grind
        · rw [Json.items_array, getElem?_eraseIdx inRange few found]
          exact inside
  | @key name list before after inner inside others found isMember _ ih =>
      rcases path with _ | ⟨segment, rest⟩
      · cases moves
        trivial
      · by_cases same : segment = .key name
        · subst same
          rw [shift, if_pos rfl] at moves
          obtain ⟨below, isBelow, rfl⟩ := Option.map_eq_some_iff.mp moves
          rw [Indexed, found] at isThere
          rw [Indexed, isMember]
          exact ih isThere isBelow
        · rw [shift, if_neg same] at moves
          cases moves
          cases segment with
          | key other =>
              have different : other ≠ name := fun equal => same (congrArg _ equal)
              rw [Indexed, others other different]
              exact isThere
          | index position =>
              have impossible : position < before.items.length := isThere.1
              rw [items_of_member? found] at impossible
              cases impossible
  | @index position list items inner inside found _ ih =>
      rcases path with _ | ⟨segment, rest⟩
      · cases moves
        trivial
      · obtain ⟨inRange, _⟩ := List.getElem?_eq_some_iff.mp found
        by_cases same : segment = .index position
        · subst same
          rw [shift, if_pos rfl] at moves
          obtain ⟨below, isBelow, rfl⟩ := Option.map_eq_some_iff.mp moves
          rw [Indexed, Json.items_array, found] at isThere
          rw [Indexed, Json.items_array, List.getElem?_set_self inRange, List.length_set]
          exact ⟨inRange, ih isThere.2 isBelow⟩
        · rw [shift, if_neg same] at moves
          cases moves
          cases segment with
          | key other => exact isThere
          | index other =>
              have different : position ≠ other := fun equal => same (congrArg _ equal.symm)
              rw [Indexed, Json.items_array, List.getElem?_set_ne different, List.length_set]
              exact isThere

end Erased

/-! ### Removing an item -/

private theorem removeAt_item {value inner : Json} {items : List Json}
    (found : getAt list value = some (.array items)) (isItem : items[removed]? = some inner) :
    removeAt (list ++ [.index removed]) value =
      some (inner, setAt list value (.array (items.eraseIdx removed))) := by
  induction list generalizing value with
  | nil =>
      cases found
      simp only [List.nil_append, removeAt, isItem, Option.map_some, setAt]
  | cons segment list ih =>
      obtain ⟨next, tail, split⟩ : ∃ next tail, list ++ [.index removed] = next :: tail :=
        List.exists_cons_of_ne_nil (List.append_ne_nil_of_right_ne_nil _ (List.cons_ne_nil _ _))
      rw [List.cons_append, split]
      rw [split] at ih
      cases segment with
      | key name =>
          rw [getAt_key] at found
          obtain ⟨below, isBelow, there⟩ := Option.bind_eq_some_iff.mp found
          cases value with
          | object members =>
              have isMember : Members.find? name members = some below := isBelow
              have replaced (left : Json) : Members.insert name left members =
                  Members.replace name left members := by
                rw [Members.insert, isMember]
                rfl
              simp only [removeAt, isMember, Option.bind_eq_bind, Option.bind_some, ih there,
                setAt, Json.members, Option.getD_some, replaced]
          | _ => cases isBelow
      | index position =>
          rw [getAt_index] at found
          obtain ⟨below, isBelow, there⟩ := Option.bind_eq_some_iff.mp found
          cases value with
          | array others =>
              obtain ⟨inRange, _⟩ := List.getElem?_eq_some_iff.mp isBelow
              rw [Json.items_array] at isBelow inRange
              have full := padded_eq_self inRange
              simp only [removeAt, isBelow, Option.bind_eq_bind, Option.bind_some, ih there, setAt,
                Json.items_array, full, Option.getD_some]
          | _ => cases isBelow

theorem setAt_erased {value : Json} {items : List Json}
    (found : getAt list value = some (.array items)) (inRange : removed < items.length)
    (few : items.length ≤ indexLimit) :
    Erased removed list value (setAt list value (.array (items.eraseIdx removed))) := by
  induction list generalizing value with
  | nil =>
      cases found
      exact .here inRange few
  | cons segment list ih =>
      cases segment with
      | key name =>
          rw [getAt_key] at found
          obtain ⟨below, isBelow, there⟩ := Option.bind_eq_some_iff.mp found
          refine .key (fun other => member?_setAt_other list value _) isBelow ?_ (ih there)
          rw [member?_setAt_self, isBelow, Option.getD_some]
      | index position =>
          rw [getAt_index] at found
          obtain ⟨below, isBelow, there⟩ := Option.bind_eq_some_iff.mp found
          cases value with
          | array others =>
              obtain ⟨inside, _⟩ := List.getElem?_eq_some_iff.mp isBelow
              rw [setAt_index, padded_eq_self inside, isBelow, Option.getD_some]
              exact .index isBelow (ih there)
          | _ => cases isBelow

theorem without_item {list : FieldPath} {values : Json} {items : List Json}
    (found : list.get? values = some (.array items)) (inRange : removed < items.length) :
    (list.item removed).without values = list.set values (.array (items.eraseIdx removed)) := by
  have isItem := List.getElem?_eq_getElem inRange
  unfold without remove? item
  rw [removeAt_item found isItem]
  rfl

/-! ### Where a path was before -/

def formerPosition (removed position : Nat) : Nat :=
  if position < removed then position else position + 1

def former (removed : Nat) : List Segment → List Segment → List Segment
  | [], .index position :: rest => .index (formerPosition removed position) :: rest
  | here :: list, segment :: rest =>
    segment :: if segment = here then former removed list rest else rest
  | _, path => path

def beforeRemoval (list : FieldPath) (removed : Nat) (path : FieldPath) : FieldPath :=
  ⟨former removed list.segments path.segments⟩

theorem former_item (removed : Nat) (list : List Segment) (position : Nat) (rest : List Segment) :
    former removed list (list ++ .index position :: rest) =
      list ++ .index (formerPosition removed position) :: rest := by
  induction list with
  | nil => rfl
  | cons here list ih => rw [List.cons_append, former, if_pos rfl, ih, List.cons_append]

theorem former_eq_self (outside : ¬∃ position rest, path = list ++ .index position :: rest) :
    former removed list path = path := by
  induction list generalizing path with
  | nil =>
      match path with
      | [] => rfl
      | .key name :: rest => rfl
      | .index position :: rest => exact absurd ⟨position, rest, rfl⟩ outside
  | cons here list ih =>
      cases path with
      | nil => rfl
      | cons segment rest =>
          rw [former]
          by_cases same : segment = here
          · subst same
            rw [if_pos rfl, ih]
            rintro ⟨position, later, rfl⟩
            exact outside ⟨position, later, rfl⟩
          · rw [if_neg same]

theorem movedPosition_former {position : Nat}
    (small : formerPosition removed position < indexLimit) :
    movedPosition removed (formerPosition removed position) = some position := by
  unfold formerPosition at small ⊢
  unfold movedPosition
  by_cases earlier : position < removed
  · rw [if_pos earlier] at small ⊢
    rw [if_neg (Nat.not_le.mpr small), if_neg (Nat.ne_of_lt earlier), if_neg (Nat.lt_asymm earlier)]
  · rw [if_neg earlier] at small ⊢
    have later : removed < position + 1 := Nat.lt_succ_of_le (Nat.not_lt.mp earlier)
    rw [if_neg (Nat.not_le.mpr small), if_neg (Nat.ne_of_gt later), if_pos later]
    rfl

theorem eq_former_of_movedPosition {position before : Nat}
    (moves : movedPosition removed before = some position) :
    before = formerPosition removed position ∨ before = position ∧ indexLimit ≤ position := by
  unfold movedPosition at moves
  unfold formerPosition
  split at moves
  · rename_i large
    cases moves
    exact Or.inr ⟨rfl, large⟩
  · split at moves
    · cases moves
    · split at moves <;> cases moves <;> split <;> omega

/-- What was at a small index moves from where it was. -/
theorem shift_former
    (small : ∀ position, .index position ∈ former removed list path → position < indexLimit) :
    shift removed list (former removed list path) = some path := by
  by_cases below : ∃ position rest, path = list ++ .index position :: rest
  · obtain ⟨position, rest, rfl⟩ := below
    rw [former_item] at small ⊢
    have isSmall := small _ (List.mem_append_right _ List.mem_cons_self)
    rw [shift_item, movedPosition_former isSmall]
    rfl
  · rw [former_eq_self below, shift_eq_self below]

/-- What moves to a path was where the path says, unless its index is too large to move. -/
theorem eq_former_of_shift {before : List Segment} (moves : shift removed list before = some path) :
    before = former removed list path ∨
      before = path ∧ ∃ position, .index position ∈ path ∧ indexLimit ≤ position := by
  by_cases below : ∃ position rest, before = list ++ .index position :: rest
  · obtain ⟨position, rest, rfl⟩ := below
    obtain ⟨later, isLater, rfl⟩ := eq_of_shift_item moves
    rw [former_item]
    rcases eq_former_of_movedPosition isLater with same | ⟨same, large⟩
    · exact Or.inl (by rw [← same])
    · exact Or.inr ⟨by rw [same], later, List.mem_append_right _ List.mem_cons_self, large⟩
  · rw [shift_eq_self below] at moves
    cases moves
    exact Or.inl (former_eq_self below).symm

/-- What is at a path after a removal was where the path says, if the list is not on the way. -/
theorem getAt_former {value : Json} {items : List Json}
    (found : getAt list value = some (.array items)) (apart : ¬path <+: list) :
    getAt path (setAt list value (.array (items.eraseIdx removed))) =
      getAt (former removed list path) value := by
  by_cases below : list <+: path
  · obtain ⟨rest, rfl⟩ := below
    rw [getAt_append, getAt_setAt, Option.bind_some]
    rcases rest with _ | ⟨name | position, rest⟩
    · rw [List.append_nil] at apart
      exact absurd (List.prefix_refl list) apart
    · have outside : ¬∃ position later,
          list ++ .key name :: rest = list ++ .index position :: later := by
        rintro ⟨position, later, same⟩
        cases List.append_cancel_left same
      rw [former_eq_self outside, getAt_append, found]
      rfl
    · have kept : (items.eraseIdx removed)[position]? = items[formerPosition removed position]? := by
        rw [List.getElem?_eraseIdx, formerPosition]
        split <;> rfl
      rw [former_item, getAt_append, found, Option.bind_some, getAt_index, getAt_index,
        Json.items_array, Json.items_array, kept]
  · have outside : ¬∃ position later, path = list ++ .index position :: later := by
      rintro ⟨position, later, rfl⟩
      exact below ⟨_, rfl⟩
    rw [former_eq_self outside]
    exact getAt_setAt_of_not_prefix found apart below _

end DeclarativeForm.FieldPath
