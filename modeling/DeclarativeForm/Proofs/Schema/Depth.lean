import DeclarativeForm.Proofs.Json.Overlay
import DeclarativeForm.Proofs.Json.Record
import DeclarativeForm.Schema.Envelope
import Mathlib.Data.List.Basic

/-!
Decoding and checking nested nodes. Both are limited by a depth, and a value is deeper than what is
in it, so its own depth is as good as any greater one. Within a node the nodes of its `fields` are
therefore decoded and checked as they would be on their own.
-/

set_option autoImplicit false

namespace DeclarativeForm

namespace Json

theorem depth_pos (value : Json) : 0 < value.depth := by
  cases value <;> simp [depth]

theorem depth_le_of_mem_items {item : Json} {items : List Json} (member : item ∈ items) :
    item.depth ≤ depthOfItems items := by
  induction items with
  | nil => cases member
  | cons first rest ih =>
      rw [depthOfItems]
      rcases List.mem_cons.mp member with rfl | later
      · exact Nat.le_max_left _ _
      · exact Nat.le_trans (ih later) (Nat.le_max_right _ _)

theorem depth_le_of_mem_members {key : String} {value : Json} {members : List (String × Json)}
    (member : (key, value) ∈ members) : value.depth ≤ depthOfMembers members := by
  induction members with
  | nil => cases member
  | cons first rest ih =>
      obtain ⟨other, inner⟩ := first
      rw [depthOfMembers]
      rcases List.mem_cons.mp member with same | later
      · cases same
        exact Nat.le_max_left _ _
      · exact Nat.le_trans (ih later) (Nat.le_max_right _ _)

/-- What is in a list that is a member of an object is less deep than the object, by more than
one. -/
theorem depth_lt_of_mem_member {key : String} {value item : Json} {members : List (String × Json)}
    (member : (key, value) ∈ members) (inside : item ∈ value.items) :
    item.depth < (Json.object members).depth := by
  have outer := depth_le_of_mem_members member
  cases value with
  | array items =>
      have inner := depth_le_of_mem_items inside
      simp only [depth] at outer ⊢
      simp only [Json.items] at inner
      omega
  | _ => cases inside

end Json

namespace Json

variable {α β : Type}

/-! ### Decoding -/

private theorem mem_of_mem_membersNamed {names : List String} {place other : Nat} {value : Json}
    {members : List (String × Json)} (member : (other, value) ∈ membersNamed names place members) :
    ∃ key, (key, value) ∈ members := by
  induction members generalizing place with
  | nil => cases member
  | cons first rest ih =>
      obtain ⟨key, inner⟩ := first
      rw [membersNamed] at member
      split at member
      · rcases List.mem_cons.mp member with same | later
        · cases same
          exact ⟨key, List.mem_cons_self⟩
        · obtain ⟨found, isThere⟩ := ih later
          exact ⟨found, List.mem_cons_of_mem _ isThere⟩
      · obtain ⟨found, isThere⟩ := ih member
        exact ⟨found, List.mem_cons_of_mem _ isThere⟩

theorem Decoder.list_congr {first second : Decoder α} {value : Json}
    (same : ∀ item ∈ value.items, first item = second item) :
    Decoder.list first value = Decoder.list second value := by
  cases value with
  | array items =>
      rw [Decoder.list, Decoder.list]
      simp only [Json.items] at same
      induction items with
      | nil => rfl
      | cons item rest ih =>
          rw [Decoder.items, Decoder.items, same item List.mem_cons_self,
            ih fun item member => same item (List.mem_cons_of_mem _ member)]
  | _ => rfl

/-- A record is decoded to the same by two decoders of its last field that agree on the members. -/
theorem RecordDecoder.run_withDefault_congr {front : RecordDecoder (α → β)} {name : String}
    {default : α} {first second : Decoder α} {members : List (String × Json)} (record : String)
    (same : ∀ key value, (key, value) ∈ members → first value = second value) :
    (front <*> withDefault name default first).run record (.object members) =
      (front <*> withDefault name default second).run record (.object members) := by
  have field (index : Nat) : (withDefault name default first).read (.members members) index =
      (withDefault name default second).read (.members members) index := by
    have agree {place : Nat} {value : Json}
        (member : (place, value) ∈ membersNamed [name] 0 members) : first value = second value := by
      obtain ⟨key, isThere⟩ := mem_of_mem_membersNamed member
      exact same key value isThere
    simp only [withDefault, Source.field]
    rcases found : membersNamed [name] 0 members with _ | ⟨⟨place, value⟩, _ | ⟨next, later⟩⟩
    · rfl
    · rw [found] at agree
      simp only [agree List.mem_cons_self]
    · rw [found] at agree
      simp only [agree List.mem_cons_self]
  have whole : (front <*> withDefault name default first).read (.members members) 0 =
      (front <*> withDefault name default second).read (.members members) 0 :=
    congrArg ((front.read (.members members) 0).apply ·) (field _)
  rw [run, run, whole]

end Json

open Json

private theorem isObject_of_tag {found : Json} (tagged : Node.tag found ≠ "text") :
    ∃ members, found = .object members := by
  cases found with
  | object members => exact ⟨members, rfl⟩
  | _ => exact absurd rfl tagged

/-- A limit on the depth that is great enough makes no difference. -/
private theorem Node.decodeWithin_congr {least most : Nat} {found : Json}
    (enough : found.depth ≤ least) (also : found.depth ≤ most) :
    Node.decodeWithin least found = Node.decodeWithin most found := by
  induction least generalizing most found with
  | zero => exact absurd found.depth_pos (Nat.not_lt.mpr enough)
  | succ least ih =>
      cases most with
      | zero => exact absurd found.depth_pos (Nat.not_lt.mpr also)
      | succ most =>
          have inside {members : List (String × Json)} (isObject : found = .object members)
              (key : String) (value : Json) (member : (key, value) ∈ members) :
              Decoder.list (Node.decodeWithin least) value =
                Decoder.list (Node.decodeWithin most) value := by
            refine Decoder.list_congr fun item isItem => ?_
            have smaller := depth_lt_of_mem_member member isItem
            rw [← isObject] at smaller
            exact ih (by omega) (by omega)
          simp only [Node.decodeWithin]
          split
          · rename_i isSection
            have tagged : Node.tag found ≠ "text" := by rw [isSection]; decide
            obtain ⟨members, rfl⟩ := isObject_of_tag tagged
            exact RecordDecoder.run_withDefault_congr _ (inside rfl)
          · split
            · rename_i isRepeatable
              have tagged : Node.tag found ≠ "text" := by rw [isRepeatable]; decide
              obtain ⟨members, rfl⟩ := isObject_of_tag tagged
              exact RecordDecoder.run_withDefault_congr _ (inside rfl)
            · rfl

theorem Node.decode_object (members : List (String × Json)) :
    Node.decode (.object members) =
      if Node.tag (.object members) = "section" then
        Section.decodeWith Node.decode (.object members)
      else if Node.tag (.object members) = "repeatable" then
        Repeatable.decodeWith Node.decode (.object members)
      else if Node.tag (.object members) = "dynamic-flow" then
        (Flow.decode (.object members)).map Node.flow
      else (Leaf.decode (.object members)).map Node.leaf := by
  have inside (key : String) (value : Json) (member : (key, value) ∈ members) :
      Decoder.list (Node.decodeWithin (depthOfMembers members)) value =
        Decoder.list Node.decode value := by
    refine Decoder.list_congr fun item isItem => ?_
    have smaller := depth_lt_of_mem_member member isItem
    rw [depth] at smaller
    exact Node.decodeWithin_congr (by omega) (Nat.le_refl _)
  have grouped : Section.decodeWith (Node.decodeWithin (depthOfMembers members)) (.object members) =
      Section.decodeWith Node.decode (.object members) :=
    RecordDecoder.run_withDefault_congr _ inside
  have repeated :
      Repeatable.decodeWith (Node.decodeWithin (depthOfMembers members)) (.object members) =
        Repeatable.decodeWith Node.decode (.object members) :=
    RecordDecoder.run_withDefault_congr _ inside
  simp only [Node.decode, depth, Node.decodeWithin, grouped, repeated]

/-! ### Checking -/

namespace Envelope

theorem eachItem_congr {first second : Check} {found : Json}
    (same : ∀ place, ∀ item ∈ found.items, first place item = second place item)
    (place : List String) : eachItem first place found = eachItem second place found := by
  refine List.flatMap_congr fun entry member => ?_
  exact same _ _ (List.fst_mem_of_mem_zipIdx member)

theorem arrayOf_congr {first second : Check} {found : Json}
    (same : ∀ place, ∀ item ∈ found.items, first place item = second place item)
    (place : List String) : arrayOf first place found = arrayOf second place found := by
  simp only [arrayOf, all, List.flatMap_cons, eachItem_congr same]

/-- What is demanded of a node whose fields are checked by a check of their own. -/
def fieldWith (inner : Check) : Check :=
  all
    [flowDemands,
      members
        [("fields", arrayOf inner),
          ("flow", arrayOf flowStep),
          ("name", isString),
          ("optionsSource", optionsSource),
          ("showWhen", showWhen),
          ("type", isString),
          ("validation", all [eachMember rule, isObject])],
      requires ["name"],
      isObject]

private theorem fieldWith_congr {first second : Check} {found : Json}
    (same : ∀ place fields, found.member? "fields" = some fields → ∀ item ∈ fields.items,
      first place item = second place item)
    (place : List String) : fieldWith first place found = fieldWith second place found := by
  simp only [fieldWith, all, members, List.flatMap_cons]
  cases fields : found.member? "fields" with
  | none => rfl
  | some value =>
      have inner := arrayOf_congr (fun place item => same place value fields item)
      simp only [inner]

theorem depth_lt_of_member? {name : String} {found value item : Json}
    (isThere : found.member? name = some value) (inside : item ∈ value.items) :
    item.depth < found.depth := by
  cases found with
  | object members =>
      rw [member?, Members.find?_eq_keyed] at isThere
      exact depth_lt_of_mem_member (Keyed.mem_of_find? isThere) inside
  | _ => cases isThere

private theorem fieldWithin_congr {least most : Nat} {found : Json} (enough : found.depth ≤ least)
    (also : found.depth ≤ most) (place : List String) :
    fieldWithin least place found = fieldWithin most place found := by
  induction least generalizing most found place with
  | zero => exact absurd found.depth_pos (Nat.not_lt.mpr enough)
  | succ least ih =>
      cases most with
      | zero => exact absurd found.depth_pos (Nat.not_lt.mpr also)
      | succ most =>
          refine fieldWith_congr (fun place fields isThere item inside => ?_) place
          have smaller := depth_lt_of_member? isThere inside
          exact ih (by omega) (by omega) place

theorem field_eq (place : List String) (found : Json) :
    field place found = fieldWith field place found := by
  have within : field place found = fieldWithin (found.depth + 1) place found :=
    fieldWithin_congr (Nat.le_refl _) (Nat.le_succ _) place
  rw [within]
  refine fieldWith_congr (fun place fields isThere item inside => ?_) place
  have smaller := depth_lt_of_member? isThere inside
  exact fieldWithin_congr (Nat.le_of_lt smaller) (Nat.le_refl _) place

end Envelope

end DeclarativeForm
