import DeclarativeForm.Proofs.Path.Frame

/-!
Reading, writing and removing by path obey the laws of a lens. What was written is read, the second
of two writes counts, and writing what is there changes nothing, whatever objects and arrays are made
or replaced on the way. A write is not seen at a path that parts from the written one at two names or
at two indices, except that an array that is too short is filled up with nulls.
-/

set_option autoImplicit false

namespace DeclarativeForm.FieldPath

/-! ### Writing twice and writing back -/

theorem setAt_setAt (path : List Segment) (value first second : Json) :
    setAt path (setAt path value first) second = setAt path value second := by
  induction path generalizing value with
  | nil => rfl
  | cons segment rest ih =>
      cases segment with
      | key name =>
          rw [setAt_key rest (setAt (.key name :: rest) value first), member?_setAt_self,
            Option.getD_some, ih, setAt_key rest value first, Json.members_object,
            Members.insert_insert, setAt_key]
      | index position =>
          have inRange := lt_length_padded value.items position
          rw [setAt_index rest (setAt (.index position :: rest) value first), items_setAt_self,
            Option.getD_some, ih, setAt_index rest value first, Json.items_array,
            padded_eq_self (by rwa [List.length_set]), List.set_set, setAt_index]

theorem setAt_getAt {path : List Segment} {value found : Json}
    (isThere : getAt path value = some found) : setAt path value found = value := by
  induction path generalizing value with
  | nil =>
      cases isThere
      rfl
  | cons segment rest ih =>
      cases segment with
      | key name =>
          rw [getAt_key] at isThere
          obtain ⟨inner, isMember, below⟩ := Option.bind_eq_some_iff.mp isThere
          rw [setAt_key, isMember, Option.getD_some, ih below]
          cases value with
          | object members => rw [Json.members_object, Members.insert_eq_self isMember]
          | _ => cases isMember
      | index position =>
          rw [getAt_index] at isThere
          obtain ⟨inner, isItem, below⟩ := Option.bind_eq_some_iff.mp isThere
          obtain ⟨inRange, same⟩ := List.getElem?_eq_some_iff.mp isItem
          rw [setAt_index, padded_eq_self inRange, isItem, Option.getD_some, ih below, ← same,
            List.set_getElem_self]
          cases value with
          | array items => rfl
          | _ => cases isItem

/-! ### Removing -/

private theorem exists_removeAt {path : List Segment} (below : path ≠ []) {value found : Json}
    (isThere : getAt path value = some found) : ∃ left, removeAt path value = some (found, left) := by
  induction path generalizing value with
  | nil => exact absurd rfl below
  | cons segment rest ih =>
      cases segment with
      | key name =>
          cases value with
          | object members =>
              obtain ⟨inner, isMember, later⟩ := Option.bind_eq_some_iff.mp isThere
              cases rest with
              | nil =>
                  cases later
                  exact ⟨_, by rw [removeAt, isMember, Option.map_some]⟩
              | cons next rest =>
                  obtain ⟨left, removal⟩ := ih (List.cons_ne_nil _ _) later
                  refine ⟨.object (Members.replace name left members), ?_⟩
                  simp only [removeAt, isMember, removal, Option.bind_eq_bind, Option.bind_some]
          | _ => cases isThere
      | index position =>
          cases value with
          | array items =>
              obtain ⟨inner, isItem, later⟩ := Option.bind_eq_some_iff.mp isThere
              cases rest with
              | nil =>
                  cases later
                  exact ⟨_, by rw [removeAt, isItem, Option.map_some]⟩
              | cons next rest =>
                  obtain ⟨left, removal⟩ := ih (List.cons_ne_nil _ _) later
                  refine ⟨.array (items.set position left), ?_⟩
                  simp only [removeAt, isItem, removal, Option.bind_eq_bind, Option.bind_some]
          | _ => cases isThere

theorem map_fst_removeAt {path : List Segment} (below : path ≠ []) (value : Json) :
    (removeAt path value).map Prod.fst = getAt path value := by
  cases isThere : getAt path value with
  | some found =>
      obtain ⟨left, removal⟩ := exists_removeAt below isThere
      rw [removal, Option.map_some]
  | none =>
      cases removal : removeAt path value with
      | none => rfl
      | some result =>
          rw [getAt_of_removeAt removal] at isThere
          cases isThere

/-! ### Writing elsewhere -/

theorem Apart.exists_split {one two : List Segment} (apart : Apart one two) :
    (∃ front first second back later, first ≠ second ∧
        one = front ++ .key first :: back ∧ two = front ++ .key second :: later) ∨
      ∃ front first second back later, first ≠ second ∧
        one = front ++ .index first :: back ∧ two = front ++ .index second :: later := by
  induction apart with
  | key different => exact .inl ⟨[], _, _, _, _, different, rfl, rfl⟩
  | index different => exact .inr ⟨[], _, _, _, _, different, rfl, rfl⟩
  | @step segment _ _ _ ih =>
      rcases ih with ⟨front, first, second, back, later, different, rfl, rfl⟩ |
        ⟨front, first, second, back, later, different, rfl, rfl⟩
      · exact .inl ⟨segment :: front, first, second, back, later, different, rfl, rfl⟩
      · exact .inr ⟨segment :: front, first, second, back, later, different, rfl, rfl⟩

/-- The other path ends in a place behind the last item of an array that a write at the path has to
lengthen, and before the item that is written. -/
def Pads (path other : FieldPath) (value : Json) : Prop :=
  ∃ front first back second, path.segments = front ++ .index first :: back ∧
    other.segments = front ++ [.index second] ∧ itemCount ⟨front⟩ value ≤ second ∧ second < first

theorem get?_set_of_pads {path other : FieldPath} {value : Json} (pads : path.Pads other value)
    (written : Json) :
    other.get? value = none ∧ other.get? (path.set value written) = some .null := by
  obtain ⟨path⟩ := path
  obtain ⟨other⟩ := other
  obtain ⟨front, first, back, second, rfl, rfl, behind, before⟩ := pads
  rw [itemCount_eq, get?_eq] at behind
  simp only [get?_eq, set, getAt_append, getAt_setAt_append, Option.bind_some]
  rw [bind_getAt (List.cons_ne_nil _ _), getAt_index, getAt_index,
    items_setAt_other _ _ _ (Nat.ne_of_gt before), getElem?_padded, if_pos ⟨behind, by omega⟩,
    List.getElem?_eq_none behind]
  exact ⟨rfl, rfl⟩

theorem get?_set_of_not_pads {path other : FieldPath} {value : Json}
    (apart : Apart path.segments other.segments) (unpadded : ¬path.Pads other value)
    (written : Json) : other.get? (path.set value written) = other.get? value := by
  obtain ⟨path⟩ := path
  obtain ⟨other⟩ := other
  rcases apart.exists_split with ⟨front, first, second, back, later, different, rfl, rfl⟩ |
    ⟨front, first, second, back, later, different, rfl, rfl⟩
  · simp only [get?_eq, set, getAt_append, getAt_setAt_append, Option.bind_some]
    rw [bind_getAt (List.cons_ne_nil _ _), getAt_key, getAt_key,
      member?_setAt_other _ _ _ (Ne.symm different)]
  · simp only [get?_eq, set, getAt_append, getAt_setAt_append, Option.bind_some]
    rw [bind_getAt (List.cons_ne_nil _ _), getAt_index, getAt_index,
      items_setAt_other _ _ _ different, getElem?_padded]
    split
    · rename_i added
      rw [List.getElem?_eq_none added.1]
      cases later with
      | nil =>
          refine absurd ⟨front, first, back, second, rfl, rfl, ?_, ?_⟩ unpadded
          · rw [itemCount_eq, get?_eq]
            exact added.1
          · omega
      | cons segment later => exact getAt_null (List.cons_ne_nil _ _)
    · rfl

private theorem EndsInKey.ne_index {path : List Segment} (ends : EndsInKey path)
    (front : List Segment) (position : Nat) : path ≠ front ++ [.index position] := by
  intro same
  induction ends generalizing front with
  | last name =>
      rcases front with _ | ⟨segment, front⟩
      · cases same
      · cases front <;> cases same
  | later segment ends ih =>
      rcases front with _ | ⟨first, front⟩
      · cases List.tail_eq_of_cons_eq same
        cases ends
      · exact ih front (List.tail_eq_of_cons_eq same)

/-- Only items are filled in, so a write is not seen at a path apart from it that ends in a name. -/
theorem get?_set_of_apart {path other : FieldPath} (apart : Apart path.segments other.segments)
    (ends : EndsInKey other.segments) (value written : Json) :
    other.get? (path.set value written) = other.get? value := by
  refine get?_set_of_not_pads apart ?_ written
  rintro ⟨front, first, back, second, _, same, _⟩
  exact ends.ne_index front second same

/-- The laws of reading, writing and removing at a path that is not empty. -/
theorem lens_laws {path : FieldPath} (below : path.segments ≠ []) (root first second : Json) :
    path.get? (path.set root first) = some first ∧
      path.set (path.set root first) second = path.set root second ∧
      (∀ found, path.get? root = some found → path.set root found = root) ∧
      (path.remove? root).map Prod.fst = path.get? root ∧
      (path.get? root = none → path.without root = root) ∧
      ∀ other : FieldPath, Apart path.segments other.segments →
        (path.Pads other root →
          other.get? root = none ∧ other.get? (path.set root first) = some .null) ∧
        (¬path.Pads other root → other.get? (path.set root first) = other.get? root) := by
  refine ⟨getAt_setAt _ _ _, setAt_setAt _ _ _ _, fun found isThere => setAt_getAt isThere,
    map_fst_removeAt below root, without_eq_self, fun other apart => ⟨fun pads => ?_, ?_⟩⟩
  · exact get?_set_of_pads pads first
  · exact fun unpadded => get?_set_of_not_pads apart unpadded first

def thirdName : FieldPath := ⟨[.key "items", .index 2, .key "name"]⟩

def oneItem : Json := .object [("items", .array [.string "first"]), ("open", .bool true)]

/-- The second item is filled in with a null where there is one item only. -/
theorem thirdName_fills : thirdName.Pads ⟨[.key "items", .index 1]⟩ oneItem ∧
    FieldPath.get? ⟨[.key "items", .index 1]⟩ (thirdName.set oneItem (.string "third")) =
      some .null ∧
    thirdName.get? (thirdName.set oneItem (.string "third")) = some (.string "third") ∧
    thirdName.without oneItem = oneItem := by
  have below : thirdName.segments ≠ [] := by decide
  obtain ⟨reads, _, _, _, unchanged, elsewhere⟩ :=
    lens_laws below oneItem (.string "third") .null
  have pads : thirdName.Pads ⟨[.key "items", .index 1]⟩ oneItem :=
    ⟨[.key "items"], 2, [.key "name"], 1, rfl, rfl, by decide, by decide⟩
  have apart : Apart thirdName.segments [.key "items", .index 1] := .step (.index (by decide))
  exact ⟨pads, ((elsewhere ⟨_⟩ apart).1 pads).2, reads, unchanged rfl⟩

end DeclarativeForm.FieldPath
