import DeclarativeForm.Proofs.Schema.Depth
import DeclarativeForm.Schema.Document

/-!
Members that a form does not ask for. A form, the steps of a wizard and the nodes at any depth may
have members under names that are not declared for any of them. Checking the envelope and decoding
both leave such members alone, whatever they hold, so a declaration with one more of them is read as
the same form.
-/

set_option autoImplicit false

namespace DeclarativeForm

open Json

/-! ### Declared names -/

/-- The names of a form besides those of its lists, `steps` and `fields`. -/
def Form.ownNames : List String :=
  ["title", "description", "type", "onSubmit", "submitButtonLabel", "validation"]

def WizardStep.names : List String := ["id", "title", "description", "fields"]

def Leaf.names : List String :=
  ["name", "type", "label", "placeholder", "helpText", "tooltip", "defaultValue", "validation",
    "showWhen", "options", "optionsSource", "crossValidation", "showPasswordStrength",
    "characterCounter"]

def Section.ownNames : List String :=
  ["name", "title", "label", "description", "collapsible", "defaultCollapsed", "columns",
    "showWhen"]

def Repeatable.ownNames : List String :=
  ["name", "label", "sectionTitle", "description", "addButtonLabel", "removeButtonLabel",
    "maxItems", "defaultValue", "validation", "showWhen"]

def Flow.names : List String :=
  ["name", "label", "helpText", "validation", "showWhen", "flow", "outputStepId", "showAllSteps"]

/-- The names of nodes of all types besides `fields`; the type itself is one of them. -/
def Node.ownNames : List String :=
  Leaf.names ++ Section.ownNames ++ Repeatable.ownNames ++ Flow.names

/-- The names that are declared for a form, for a step of a wizard or for a node. -/
def Form.declaredNames : List String :=
  ["steps", "fields"] ++ Form.ownNames ++ WizardStep.names ++ Node.ownNames

/-! ### Values that are read alike -/

/-- Two values are both accepted by a check or both refused, and decoded to the same. -/
structure ReadAlike {α : Type} (check : Envelope.Check) (decode : Decoder α) (first second : Json) :
    Prop where
  checked : ∀ place, check place first = [] ↔ check place second = []
  decoded : (decode first).toOption = (decode second).toOption

/-- Under a name two objects have the same values, or the first has another one that is read
alike. -/
inductive SameOrAlike {α : Type} (check : Envelope.Check) (decode : Decoder α) (name : String)
    (first second : List (String × Json)) : Prop
  | same (same : SameUnder [name] first second)
  | replaced {new old : Json} {rest : List Json} (after : valuesNamed [name] first = new :: rest)
      (before : valuesNamed [name] second = old :: rest) (alike : ReadAlike check decode new old)

variable {α : Type} {first second : List (String × Json)}

namespace SameOrAlike

variable {check : Envelope.Check} {decode : Decoder α} {name : String}

theorem readsAlike (alike : SameOrAlike check decode name first second) (default : α) :
    (RecordDecoder.withDefault name default decode).ReadsAlike first second := by
  cases alike with
  | same same => exact RecordDecoder.readsAlike_withDefault same List.mem_cons_self default decode
  | replaced after before alike =>
      exact RecordDecoder.readsAlike_of_replaced after before alike.decoded

theorem isSome_eq (alike : SameOrAlike check decode name first second) :
    (Members.find? name first).isSome = (Members.find? name second).isSome := by
  cases alike with
  | same same => rw [same.find?_eq List.mem_cons_self]
  | replaced after before _ =>
      rw [find?_eq_head?, find?_eq_head?, after, before]
      rfl

end SameOrAlike

/-! ### Checking -/

namespace Envelope

theorem all_eq_nil_iff {checks : List Check} {place : List String} {found : Json} :
    all checks place found = [] ↔ ∀ check ∈ checks, check place found = [] :=
  List.flatMap_eq_nil_iff

def MemberHolds (named : String × Check) (place : List String) (members : List (String × Json)) :
    Prop :=
  ∀ value, Members.find? named.1 members = some value → named.2 (place ++ [named.1]) value = []

theorem members_eq_nil_iff {checks : List (String × Check)} {place : List String} :
    members checks place (.object first) = [] ↔
      ∀ named ∈ checks, MemberHolds named place first := by
  rw [members, List.flatMap_eq_nil_iff]
  refine forall₂_congr fun named _ => ?_
  simp only [member?, MemberHolds]
  cases Members.find? named.1 first <;> simp

theorem requires_eq_nil_iff {names : List String} {place : List String} :
    requires names place (.object first) = [] ↔
      ∀ name ∈ names, (Members.find? name first).isSome = true := by
  simp [requires, List.filter_eq_nil_iff, Option.isSome_iff_ne_none]

theorem memberHolds_of_same {names : List String} (same : SameUnder names first second)
    (name : String) (asked : name ∈ names) (check : Check) (place : List String) :
    MemberHolds (name, check) place first ↔ MemberHolds (name, check) place second := by
  rw [MemberHolds, MemberHolds, same.find?_eq asked]

theorem memberHolds_of_alike {name : String} {check : Check} {decode : Decoder α}
    (alike : SameOrAlike check decode name first second) (place : List String) :
    MemberHolds (name, check) place first ↔ MemberHolds (name, check) place second := by
  cases alike with
  | same same => exact memberHolds_of_same same name List.mem_cons_self check place
  | replaced after before alike =>
      have checked := alike.checked (place ++ [name])
      simp only [MemberHolds, find?_eq_head?, after, before, List.head?_cons, Option.some.injEq,
        forall_eq', checked]

theorem eachItem_eq_nil_iff {check : Check} {place : List String} {items : List Json} :
    eachItem check place (.array items) = [] ↔ ∀ (position : Nat) (item : Json),
      items[position]? = some item → check (place ++ [toString position]) item = [] := by
  rw [eachItem, List.flatMap_eq_nil_iff, Prod.forall]
  simp only [Json.items, List.mem_zipIdx_iff_getElem?]
  exact forall_comm

end Envelope

theorem ReadAlike.list {check : Envelope.Check} {decode : Decoder α} {items : List Json}
    {position : Nat} {old new : Json} (isThere : items[position]? = some old)
    (alike : ReadAlike check decode new old) :
    ReadAlike (Envelope.arrayOf check) (Decoder.list decode) (.array (items.set position new))
      (.array items) := by
  refine ⟨fun place => ?_, Decoder.list_set isThere alike.decoded⟩
  simp only [Envelope.arrayOf, Envelope.all_eq_nil_iff, List.forall_mem_cons,
    Envelope.eachItem_eq_nil_iff]
  refine and_congr (forall_congr' fun other => ?_)
    (by simp [Envelope.isArray, Envelope.demand, Json.isArray])
  by_cases same : position = other
  · subst other
    obtain ⟨inRange, _⟩ := List.getElem?_eq_some_iff.mp isThere
    simp only [List.getElem?_set_self inRange, isThere, Option.some.injEq, forall_eq']
    exact alike.checked _
  · rw [List.getElem?_set_ne same]

/-! ### Steps -/

theorem WizardStep.readAlike (same : SameUnder WizardStep.names first second) :
    ReadAlike Envelope.wizardStep WizardStep.decode (.object first) (.object second) := by
  constructor
  · intro place
    simp only [Envelope.wizardStep, Envelope.all_eq_nil_iff, List.forall_mem_cons,
      Envelope.members_eq_nil_iff, Envelope.requires_eq_nil_iff]
    rw [Envelope.memberHolds_of_same same "fields" (by decide),
      Envelope.memberHolds_of_same same "id" (by decide),
      Envelope.memberHolds_of_same same "title" (by decide), same.find?_eq (by decide),
      same.find?_eq (by decide)]
    simp [Envelope.isObject, Envelope.demand, Json.isObject]
  · refine RecordDecoder.ReadsAlike.run ?_ _
    apply_rules [RecordDecoder.readsAlike_seq, RecordDecoder.readsAlike_required same,
      RecordDecoder.readsAlike_withDefault same]
    all_goals decide

/-! ### Nodes -/

private theorem toOption_map {β ε : Type} (f : α → β) (result : Except ε α) :
    (result.map f).toOption = result.toOption.map f := by
  cases result <;> rfl

theorem Leaf.decoded_of_same (same : SameUnder Leaf.names first second) :
    (Leaf.decode (.object first)).toOption = (Leaf.decode (.object second)).toOption := by
  refine RecordDecoder.ReadsAlike.run ?_ _
  apply_rules [RecordDecoder.readsAlike_seq, RecordDecoder.readsAlike_required same,
    RecordDecoder.readsAlike_withDefault same]
  all_goals decide

theorem Flow.decoded_of_same (same : SameUnder Flow.names first second) :
    (Flow.decode (.object first)).toOption = (Flow.decode (.object second)).toOption := by
  refine RecordDecoder.ReadsAlike.run ?_ _
  apply_rules [RecordDecoder.readsAlike_seq, RecordDecoder.readsAlike_required same,
    RecordDecoder.readsAlike_withDefault same]
  all_goals decide

section Nested

variable {check : Envelope.Check} {node : Decoder Node}
  (fields : SameOrAlike check (Decoder.list node) "fields" first second)

include fields

theorem Section.decoded_of_same (same : SameUnder Section.ownNames first second) :
    (Section.decodeWith node (.object first)).toOption =
      (Section.decodeWith node (.object second)).toOption := by
  refine RecordDecoder.ReadsAlike.run (RecordDecoder.readsAlike_seq ?_ (fields.readsAlike _)) _
  apply_rules [RecordDecoder.readsAlike_seq, RecordDecoder.readsAlike_withDefault same]
  all_goals decide

theorem Repeatable.decoded_of_same (same : SameUnder Repeatable.ownNames first second) :
    (Repeatable.decodeWith node (.object first)).toOption =
      (Repeatable.decodeWith node (.object second)).toOption := by
  refine RecordDecoder.ReadsAlike.run (RecordDecoder.readsAlike_seq ?_ (fields.readsAlike _)) _
  apply_rules [RecordDecoder.readsAlike_seq, RecordDecoder.readsAlike_required same,
    RecordDecoder.readsAlike_withDefault same]
  all_goals decide

end Nested

abbrev Node.Alike : Json → Json → Prop := ReadAlike Envelope.field Node.decode

abbrev Node.ListsAlike : List (String × Json) → List (String × Json) → Prop :=
  SameOrAlike (Envelope.arrayOf Envelope.field) (Decoder.list Node.decode) "fields"

theorem Node.decoded_of_same (same : SameUnder Node.ownNames first second)
    (fields : Node.ListsAlike first second) :
    (Node.decode (.object first)).toOption = (Node.decode (.object second)).toOption := by
  have part {names : List String} (inside : names ⊆ Node.ownNames) :
      SameUnder names first second := fun name member => same name (inside member)
  have tag : Node.tag (.object first) = Node.tag (.object second) := by
    rw [Node.tag, Node.tag, member?, member?, same.find?_eq (by decide)]
  rw [Node.decode_object, Node.decode_object, tag]
  split
  · exact Section.decoded_of_same fields (part (by decide))
  · split
    · exact Repeatable.decoded_of_same fields (part (by decide))
    · split
      · rw [toOption_map, toOption_map, Flow.decoded_of_same (part (by decide))]
      · rw [toOption_map, toOption_map, Leaf.decoded_of_same (part (by decide))]

private theorem Envelope.flowDemands_eq_nil_iff (same : SameUnder Node.ownNames first second)
    (place : List String) :
    flowDemands place (.object first) = [] ↔ flowDemands place (.object second) = [] := by
  rw [flowDemands, flowDemands, member?, member?, same.find?_eq (by decide)]
  split
  · rw [requires_eq_nil_iff, requires_eq_nil_iff]
    simp only [List.forall_mem_cons]
    rw [same.find?_eq (by decide), same.find?_eq (by decide)]
    simp
  · rfl

theorem Node.alike_of_members (same : SameUnder Node.ownNames first second)
    (fields : Node.ListsAlike first second) : Node.Alike (.object first) (.object second) := by
  refine ⟨fun place => ?_, Node.decoded_of_same same fields⟩
  rw [Envelope.field_eq, Envelope.field_eq, Envelope.fieldWith]
  simp only [Envelope.all_eq_nil_iff, List.forall_mem_cons, Envelope.members_eq_nil_iff,
    Envelope.requires_eq_nil_iff]
  rw [Envelope.flowDemands_eq_nil_iff same, Envelope.memberHolds_of_alike fields,
    Envelope.memberHolds_of_same same "flow" (by decide),
    Envelope.memberHolds_of_same same "name" (by decide),
    Envelope.memberHolds_of_same same "optionsSource" (by decide),
    Envelope.memberHolds_of_same same "showWhen" (by decide),
    Envelope.memberHolds_of_same same "type" (by decide),
    Envelope.memberHolds_of_same same "validation" (by decide), same.find?_eq (by decide)]
  simp [Envelope.isObject, Envelope.demand, Json.isObject]

/-! ### Forms -/

theorem Form.alike_of_members (same : SameUnder Form.ownNames first second)
    (steps :
      SameOrAlike (Envelope.arrayOf Envelope.wizardStep) (Decoder.list WizardStep.decode) "steps"
        first second)
    (fields : Node.ListsAlike first second) :
    ReadAlike Envelope.form Form.decode (.object first) (.object second) := by
  constructor
  · intro place
    simp only [Envelope.form, Envelope.all_eq_nil_iff, List.forall_mem_cons,
      Envelope.members_eq_nil_iff, Envelope.requires_eq_nil_iff]
    rw [Envelope.memberHolds_of_same same "description" (by decide),
      Envelope.memberHolds_of_alike fields, Envelope.memberHolds_of_alike steps,
      Envelope.memberHolds_of_same same "title" (by decide),
      Envelope.memberHolds_of_same same "type" (by decide), fields.isSome_eq]
    simp [Envelope.isObject, Envelope.demand, Json.isObject]
  · refine RecordDecoder.ReadsAlike.run ?_ _
    have stepsAlike := steps.readsAlike []
    have fieldsAlike := fields.readsAlike []
    apply_rules [RecordDecoder.readsAlike_seq, RecordDecoder.readsAlike_withDefault same]
    all_goals decide

/-- Declarations that are read alike are both forms or both none, and then they are one form. -/
theorem Form.ofJson_eq_ok_iff {new old : Json} (alike : ReadAlike Envelope.form Form.decode new old)
    (form : Form) : Form.ofJson new = .ok form ↔ Form.ofJson old = .ok form := by
  have readable (declaration : Json) : Form.ofJson declaration = .ok form ↔
      Envelope.form [] declaration = [] ∧ (Form.decode declaration).toOption = some form := by
    rw [Form.ofJson, Envelope.violations]
    cases Envelope.form [] declaration with
    | cons violation rest => simp
    | nil => cases Form.decode declaration <;> simp [Except.toOption]
  rw [readable, readable, alike.checked, alike.decoded]

/-! ### Parts -/

/-- What of a declaration may be extended: the form itself, a step of a wizard or a node, which is
given by the places it lies at in the lists of fields around it, from the outermost on. -/
inductive FormPart
  | form
  | step (position : Nat)
  | node (outermost : Nat) (inner : List Nat)

def Node.wayTo : List Nat → List Segment
  | [] => []
  | position :: inner => .key "fields" :: .index position :: Node.wayTo inner

def FormPart.path : FormPart → FieldPath
  | form => ⟨[]⟩
  | step position => ⟨[.key "steps", .index position]⟩
  | node outermost inner => ⟨Node.wayTo (outermost :: inner)⟩

open FieldPath

section Item

variable {list : String} {position : Nat} {rest : List Segment} {value found : Json}

private theorem exists_item_of_getAt
    (isThere : getAt (.key list :: .index position :: rest) value = some found) :
    ∃ members items inner, value = .object members ∧
      Members.find? list members = some (.array items) ∧ items[position]? = some inner ∧
      getAt rest inner = some found := by
  cases value with
  | object members =>
      rw [getAt, Option.bind_eq_some_iff] at isThere
      obtain ⟨listed, isMember, later⟩ := isThere
      cases listed with
      | array items =>
          rw [getAt, Option.bind_eq_some_iff] at later
          obtain ⟨inner, isItem, below⟩ := later
          exact ⟨members, items, inner, rfl, isMember, isItem, below⟩
      | _ => cases later
  | _ => cases isThere

private theorem setAt_item {members : List (String × Json)} {items : List Json} {inner : Json}
    (isMember : Members.find? list members = some (.array items))
    (isItem : items[position]? = some inner) (written : Json) :
    setAt (.key list :: .index position :: rest) (.object members) written =
      .object (Members.insert list (.array (items.set position (setAt rest inner written)))
        members) := by
  obtain ⟨inRange, _⟩ := List.getElem?_eq_some_iff.mp isItem
  rw [setAt_key, Json.member?, isMember, Option.getD_some, setAt_index, Json.items_array,
    padded_eq_self inRange, isItem, Option.getD_some]
  rfl

/-- A list of which an item is replaced by one that is read alike. -/
private theorem sameOrAlike_of_item {check : Envelope.Check} {decode : Decoder α}
    {members : List (String × Json)} {items : List Json} {old new : Json}
    (isMember : Members.find? list members = some (.array items))
    (isItem : items[position]? = some old) (alike : ReadAlike check decode new old) :
    SameOrAlike (Envelope.arrayOf check) (Decoder.list decode) list
      (Members.insert list (.array (items.set position new)) members) members := by
  obtain ⟨rest, before, after⟩ := valuesNamed_insert_self isMember (.array (items.set position new))
  exact .replaced after before (alike.list isItem)

end Item

section Unknown

variable {key : String} (unknown : key ∉ Form.declaredNames) (entry : Json)

include unknown

private theorem sameUnder_of_unknown {names : List String} (declared : names ⊆ Form.declaredNames)
    (members : List (String × Json)) :
    SameUnder names (Members.insert key entry members) members :=
  sameUnder_insert (fun asked => unknown (declared asked)) entry members

theorem Node.alike_of_unknown (places : List Nat) {value : Json}
    {members : List (String × Json)}
    (isPart : getAt (Node.wayTo places) value = some (.object members)) :
    Node.Alike (setAt (Node.wayTo places ++ [.key key]) value entry) value := by
  induction places generalizing value with
  | nil =>
      cases isPart
      exact Node.alike_of_members (sameUnder_of_unknown unknown entry (by decide) members)
        (.same (sameUnder_of_unknown unknown entry (by decide) members))
  | cons position inner ih =>
      obtain ⟨outer, items, item, rfl, isMember, isItem, below⟩ := exists_item_of_getAt isPart
      rw [Node.wayTo, List.cons_append, List.cons_append, setAt_item isMember isItem]
      exact Node.alike_of_members (sameUnder_insert (by decide) _ _)
        (sameOrAlike_of_item isMember isItem (ih below))

theorem Form.alike_of_unknown (part : FormPart) {declaration : Json}
    {members : List (String × Json)}
    (isPart : part.path.get? declaration = some (.object members)) :
    ReadAlike Envelope.form Form.decode ((part.path.child key).set declaration entry)
      declaration := by
  cases part with
  | form =>
      cases isPart
      have same {names : List String} (declared : names ⊆ Form.declaredNames) :=
        sameUnder_of_unknown unknown entry declared members
      exact Form.alike_of_members (same (by decide)) (.same (same (by decide)))
        (.same (same (by decide)))
  | step position =>
      obtain ⟨outer, items, item, rfl, isMember, isItem, below⟩ := exists_item_of_getAt isPart
      cases below
      have alike : ReadAlike Envelope.wizardStep WizardStep.decode
          (setAt [.key key] (.object members) entry) (.object members) :=
        WizardStep.readAlike (sameUnder_of_unknown unknown entry (by decide) members)
      change ReadAlike _ _ (setAt [.key "steps", .index position, .key key] (.object outer) entry) _
      rw [setAt_item isMember isItem]
      exact Form.alike_of_members (sameUnder_insert (by decide) _ _)
        (sameOrAlike_of_item isMember isItem alike) (.same (sameUnder_insert (by decide) _ _))
  | node outermost inner =>
      obtain ⟨outer, items, item, rfl, isMember, isItem, below⟩ := exists_item_of_getAt isPart
      have alike := Node.alike_of_unknown unknown entry inner below
      change ReadAlike _ _
        (setAt (.key "fields" :: .index outermost :: (Node.wayTo inner ++ [.key key]))
          (.object outer) entry) _
      rw [setAt_item isMember isItem]
      exact Form.alike_of_members (sameUnder_insert (by decide) _ _)
        (.same (sameUnder_insert (by decide) _ _)) (sameOrAlike_of_item isMember isItem alike)

end Unknown

/-- A declaration that is accepted is accepted with a member more in any of its parts, if its name
is declared for none, and read as the same form with the same notices. -/
theorem Form.ofJson_ignores_unknown {declaration : Json} {form : Form}
    (accepted : Form.ofJson declaration = .ok form) {part : FormPart}
    {members : List (String × Json)} (isPart : part.path.get? declaration = some (.object members))
    {key : String} (unknown : key ∉ Form.declaredNames) (entry : Json) :
    (Form.ofJson ((part.path.child key).set declaration entry)).map
      (fun extended => (extended, extended.notices)) = .ok (form, form.notices) := by
  have same := (Form.ofJson_eq_ok_iff (Form.alike_of_unknown unknown entry part isPart) form).mpr
    accepted
  rw [same]
  rfl

def twoSpares : Json :=
  .object
    [("fields", .array
      [.object
        [("fields",
            .array [.object [("name", .string "part")], .object [("name", .string "part")]]),
          ("name", .string "spares"),
          ("type", .string "repeatable")]])]

/-- A note in the second of the fields is ignored, and the warning about their names stays. -/
theorem twoSpares_noted : ∃ form,
    Form.ofJson twoSpares = .ok form ∧
      form.notices = [.duplicateName "part" "spares"] ∧ "x-note" ∉ Form.declaredNames ∧
      (Form.ofJson (((FormPart.node 0 [1]).path.child "x-note").set twoSpares .null)).map
        (fun extended => (extended, extended.notices)) = .ok (form, form.notices) :=
  ⟨_, rfl, rfl, by decide, Form.ofJson_ignores_unknown rfl rfl (by decide) .null⟩

end DeclarativeForm
