import DeclarativeForm.Json.Decode

/-!
Decoding records from objects. What a field decodes to depends on the values under its names and on
nothing else: not on the places of the members, and not on members under other names. So a record
reads alike from the members of an object and from those with one more, unless a field asks for the
name of that one; and where a value is replaced by one that decodes alike, the record is the same.
-/

set_option autoImplicit false

namespace DeclarativeForm.Json

variable {α β : Type}

/-! ### Results -/

namespace Ranked

def value? : Ranked α → Option α
  | decoded value => some value
  | fault _ _ => none

theorem value?_ofExcept (rank : Nat) (result : Except DecodeFault α) :
    (ofExcept rank result).value? = result.toOption := by
  cases result <;> rfl

theorem toOption_toExcept (result : Ranked α) : result.toExcept.toOption = result.value? := by
  cases result <;> rfl

theorem value?_apply (first : Ranked (α → β)) (second : Ranked α) :
    (first.apply second).value? = first.value?.bind fun f => second.value?.map f := by
  cases first with
  | decoded f => cases second <;> rfl
  | fault rank cause =>
      cases second with
      | decoded value => rfl
      | fault other otherCause =>
          rw [apply]
          split <;> rfl

end Ranked

/-! ### Fields -/

def valuesNamed (names : List String) (members : List (String × Json)) : List Json :=
  (members.filter fun member => names.contains member.1).map Prod.snd

theorem map_snd_membersNamed (names : List String) (place : Nat) (members : List (String × Json)) :
    (membersNamed names place members).map Prod.snd = valuesNamed names members := by
  induction members generalizing place with
  | nil => rfl
  | cons member rest ih =>
      obtain ⟨key, value⟩ := member
      by_cases named : names.contains key = true
      · rw [membersNamed, if_pos named, List.map_cons, ih]
        simp only [valuesNamed, List.filter_cons, named, if_true, List.map_cons]
      · rw [membersNamed, if_neg named, ih]
        simp only [valuesNamed, List.filter_cons, if_neg named]

/-- What the values under the names of a field are decoded to: one value, or what stands for none. -/
def decodedField (absent : Absent α) (decode : Decoder α) : List Json → Option α
  | [] => absent.asMember
  | [value] => (decode value).toOption
  | _ => none

theorem value?_field (members : List (String × Json)) (index : Nat) (name : String)
    (aliases : List String) (absent : Absent α) (decode : Decoder α) :
    ((Source.members members).field index name aliases absent decode).value? =
      decodedField absent decode (valuesNamed (name :: aliases) members) := by
  rw [← map_snd_membersNamed (name :: aliases) 0 members, Source.field]
  rcases membersNamed (name :: aliases) 0 members with _ | ⟨⟨place, value⟩, _ | ⟨next, later⟩⟩
  · cases standIn : absent.asMember <;> simp [standIn, Ranked.value?, decodedField]
  · exact Ranked.value?_ofExcept place _
  · simp only [List.map_cons, decodedField]
    cases decode value <;> rfl

def SameUnder (names : List String) (first second : List (String × Json)) : Prop :=
  ∀ name ∈ names, valuesNamed [name] first = valuesNamed [name] second

theorem find?_eq_head? (name : String) (members : List (String × Json)) :
    Members.find? name members = (valuesNamed [name] members).head? := by
  induction members with
  | nil => rfl
  | cons member rest ih =>
      obtain ⟨key, value⟩ := member
      by_cases same : key = name
      · simp [Members.find?, valuesNamed, same]
      · rw [Members.find?, if_neg same, ih]
        simp [valuesNamed, same]

theorem SameUnder.find?_eq {names : List String} {first second : List (String × Json)}
    (same : SameUnder names first second) {name : String} (member : name ∈ names) :
    Members.find? name first = Members.find? name second := by
  rw [find?_eq_head?, find?_eq_head?, same name member]

/-! ### Insertions -/

private theorem filter_replace {keep : String → Bool} {key : String} (dropped : keep key = false)
    (value : Json) (members : List (String × Json)) :
    (Members.replace key value members).filter (fun member => keep member.1) =
      members.filter fun member => keep member.1 := by
  induction members with
  | nil => rfl
  | cons member rest ih =>
      obtain ⟨other, old⟩ := member
      by_cases same : other = key
      · subst other
        simp [Members.replace, dropped]
      · rw [Members.replace, if_neg same, List.filter_cons, List.filter_cons, ih]

private theorem filter_place {keep : String → Bool} {key : String} (dropped : keep key = false)
    (value : Json) (members : List (String × Json)) :
    (Members.place key value members).filter (fun member => keep member.1) =
      members.filter fun member => keep member.1 := by
  induction members with
  | nil => simp [Members.place, dropped]
  | cons member rest ih =>
      obtain ⟨other, old⟩ := member
      by_cases smaller : key < other
      · simp [Members.place, smaller, dropped]
      · rw [Members.place, if_neg smaller, List.filter_cons, List.filter_cons, ih]

theorem sameUnder_insert {names : List String} {key : String} (other : key ∉ names) (value : Json)
    (members : List (String × Json)) :
    SameUnder names (Members.insert key value members) members := by
  intro name member
  have dropped : [name].contains key = false := by
    have different : key ≠ name := fun same => other (same ▸ member)
    simpa using different
  rw [valuesNamed, Members.insert]
  split
  · rw [filter_replace dropped, valuesNamed]
  · rw [filter_place dropped, valuesNamed]

/-- A value that is inserted where there is one takes the place of the first under its name. -/
theorem valuesNamed_insert_self {key : String} {old : Json} {members : List (String × Json)}
    (found : Members.find? key members = some old) (value : Json) :
    ∃ rest, valuesNamed [key] members = old :: rest ∧
      valuesNamed [key] (Members.insert key value members) = value :: rest := by
  have isThere : (Members.find? key members).isSome = true := by
    rw [found]
    rfl
  rw [Members.insert, if_pos isThere]
  clear isThere
  induction members with
  | nil => cases found
  | cons member rest ih =>
      obtain ⟨other, first⟩ := member
      by_cases same : other = key
      · subst other
        rw [Members.find?, if_pos rfl] at found
        cases found
        exact ⟨valuesNamed [key] rest, by simp [valuesNamed], by simp [valuesNamed, Members.replace]⟩
      · rw [Members.find?, if_neg same] at found
        obtain ⟨later, before, after⟩ := ih found
        refine ⟨later, ?_, ?_⟩
        · rw [← before]
          simp [valuesNamed, same]
        · rw [← after]
          simp [valuesNamed, Members.replace, same]

/-! ### Records -/

namespace RecordDecoder

/-- A record is decoded to the same from two lists of members, if it is decoded at all. -/
def ReadsAlike (record : RecordDecoder α) (first second : List (String × Json)) : Prop :=
  ∀ index, (record.read (.members first) index).value? =
    (record.read (.members second) index).value?

variable {first second : List (String × Json)} {name : String}

theorem readsAlike_seq {record : RecordDecoder (α → β)} {field : RecordDecoder α}
    (front : record.ReadsAlike first second) (last : field.ReadsAlike first second) :
    (record <*> field).ReadsAlike first second := by
  intro index
  have outer := front index
  have inner := last (index + record.arity)
  calc ((record.read (.members first) index).apply
        (field.read (.members first) (index + record.arity))).value?
      = ((record.read (.members second) index).apply
        (field.read (.members second) (index + record.arity))).value? := by
          rw [Ranked.value?_apply, Ranked.value?_apply, outer, inner]

section Same

variable {names : List String} (same : SameUnder names first second)

include same

theorem readsAlike_required (asked : name ∈ names) (decode : Decoder α) :
    (required name decode).ReadsAlike first second := by
  intro index
  rw [required, requiredAs, value?_field, value?_field, same name asked]

theorem readsAlike_withDefault (asked : name ∈ names) (default : α) (decode : Decoder α) :
    (withDefault name default decode).ReadsAlike first second := by
  intro index
  rw [withDefault, value?_field, value?_field, same name asked]

end Same

/-- A value may be replaced by one that is decoded alike. -/
theorem readsAlike_of_replaced {old new : Json} {rest : List Json} {default : α}
    {decode : Decoder α} (after : valuesNamed [name] first = new :: rest)
    (before : valuesNamed [name] second = old :: rest)
    (alike : (decode new).toOption = (decode old).toOption) :
    (withDefault name default decode).ReadsAlike first second := by
  intro index
  rw [withDefault, value?_field, value?_field, before, after]
  cases rest with
  | nil => exact alike
  | cons next later => rfl

theorem ReadsAlike.run {record : RecordDecoder α} (alike : record.ReadsAlike first second)
    (name : String) :
    (record.run name (.object first)).toOption = (record.run name (.object second)).toOption := by
  rw [RecordDecoder.run, RecordDecoder.run, Ranked.toOption_toExcept, Ranked.toOption_toExcept]
  exact alike 0

end RecordDecoder

/-! ### Lists -/

theorem Decoder.toOption_items {decode : Decoder α} (items : List Json) :
    (Decoder.items decode items).toOption = items.mapM fun item => (decode item).toOption := by
  induction items with
  | nil => rfl
  | cons item rest ih =>
      rw [Decoder.items, List.mapM_cons, ← ih]
      cases decode item with
      | error fault => rfl
      | ok value => cases Decoder.items decode rest <;> rfl

/-- An item of a list may be replaced by one that is decoded alike. -/
theorem Decoder.list_set {decode : Decoder α} {items : List Json} {position : Nat} {old new : Json}
    (found : items[position]? = some old)
    (alike : (decode new).toOption = (decode old).toOption) :
    (Decoder.list decode (.array (items.set position new))).toOption =
      (Decoder.list decode (.array items)).toOption := by
  rw [Decoder.list, Decoder.list, toOption_items, toOption_items]
  induction items generalizing position with
  | nil => cases found
  | cons item rest ih =>
      cases position with
      | zero =>
          cases found
          rw [List.set_cons_zero, List.mapM_cons, List.mapM_cons, alike]
      | succ position =>
          rw [List.set_cons_succ, List.mapM_cons, List.mapM_cons, ih found]

end DeclarativeForm.Json
