import DeclarativeForm.Defaults
import DeclarativeForm.Proofs.Keyed
import DeclarativeForm.Proofs.Path.Frame

/-!
Laying one value over another. Along a path of keys the lower value shows through exactly where the
upper one has nothing: where the upper one ends in something that is no object, that is what is
found, and where it lacks a key, everything under that key is as it was. Laying the same value over
the result again changes nothing.
-/

set_option autoImplicit false

namespace DeclarativeForm

def FieldPath.ofKeys (keys : List String) : FieldPath := ⟨keys.map .key⟩

theorem FieldPath.get?_ofKeys_cons (key : String) (keys : List String) (value : Json) :
    (ofKeys (key :: keys)).get? value = (value.member? key).bind (ofKeys keys).get? :=
  getAt_key key (keys.map .key) value

theorem FieldPath.get?_ofKeys_append (front back : List String) (value : Json) :
    (ofKeys (front ++ back)).get? value =
      ((ofKeys front).get? value).bind (ofKeys back).get? := by
  unfold get? ofKeys
  rw [List.map_append, getAt_append]

theorem Members.find?_eq_keyed {α : Type} (key : String) (members : List (String × α)) :
    find? key members = Keyed.find? key members := by
  induction members with
  | nil => rfl
  | cons first rest ih => rw [find?, Keyed.find?, ih]

namespace Json

/-- No object reached through objects has a key twice. -/
inductive KeysDistinct : Json → Prop
  | single {value : Json} (isSingle : value.isObject = false) : KeysDistinct value
  | object {members : List (String × Json)} (distinct : Keyed.Distinct members)
      (inner : ∀ member ∈ members, KeysDistinct member.2) : KeysDistinct (.object members)

/-- What a value becomes when another one is laid over it, and that one where there was nothing. -/
def laidOver (value : Json) : Option Json → Json
  | some existing => existing.overlay value
  | none => value

/-! ### Members -/

theorem overlayMembers_cons (key : String) (value : Json) (base rest : List (String × Json)) :
    overlayMembers base ((key, value) :: rest) =
      overlayMembers (Members.insert key (value.laidOver (Members.find? key base)) base) rest := by
  rw [overlayMembers]
  cases Members.find? key base <;> rfl

theorem find?_overlayMembers_other {key : String} {patch : List (String × Json)}
    (absent : key ∉ Keyed.keys patch) (base : List (String × Json)) :
    Members.find? key (overlayMembers base patch) = Members.find? key base := by
  induction patch generalizing base with
  | nil => rw [overlayMembers]
  | cons first rest ih =>
      obtain ⟨other, value⟩ := first
      obtain ⟨different, later⟩ := not_or.mp (mt List.mem_cons.mpr absent)
      rw [overlayMembers_cons, ih later, Members.find?_insert_other different]

theorem find?_overlayMembers_self {key : String} {value : Json} {patch : List (String × Json)}
    (distinct : Keyed.Distinct patch) (member : (key, value) ∈ patch)
    (base : List (String × Json)) :
    Members.find? key (overlayMembers base patch) =
      some (value.laidOver (Members.find? key base)) := by
  induction patch generalizing base with
  | nil => cases member
  | cons first rest ih =>
      obtain ⟨other, old⟩ := first
      obtain ⟨isNew, later⟩ := List.nodup_cons.mp distinct
      rw [overlayMembers_cons]
      rcases List.mem_cons.mp member with same | inRest
      · cases same
        rw [find?_overlayMembers_other isNew, Members.find?_insert_self]
      · have different : key ≠ other := by
          intro same
          subst other
          exact isNew (List.mem_map.mpr ⟨_, inRest, rfl⟩)
        rw [ih later inRest, Members.find?_insert_other different]

/-- Values that are there already and that nothing changes are laid over in vain. -/
theorem overlayMembers_eq_self {base patch : List (String × Json)}
    (settled : ∀ key value, (key, value) ∈ patch →
      ∃ existing, Members.find? key base = some existing ∧ existing.overlay value = existing) :
    overlayMembers base patch = base := by
  induction patch with
  | nil => rw [overlayMembers]
  | cons first rest ih =>
      obtain ⟨key, value⟩ := first
      obtain ⟨existing, found, unchanged⟩ := settled key value List.mem_cons_self
      have here : Members.insert key (value.laidOver (Members.find? key base)) base = base := by
        rw [found, laidOver, unchanged]
        exact Members.insert_eq_self found
      rw [overlayMembers_cons, here]
      apply ih
      intro key value member
      exact settled key value (List.mem_cons_of_mem _ member)

/-! ### Values -/

theorem overlay_of_single {patch : Json} (isSingle : patch.isObject = false) (base : Json) :
    base.overlay patch = patch := by
  cases patch with
  | object members => cases isSingle
  | _ => rw [overlay]; exact nofun

theorem member?_of_single {value : Json} (isSingle : value.isObject = false) (key : String) :
    value.member? key = none := by
  cases value with
  | object members => cases isSingle
  | _ => rfl

theorem overlay_object (base : Json) (members : List (String × Json)) :
    base.overlay (.object members) =
      if base.isObject then .object (overlayMembers base.members members) else .object members := by
  cases base <;> rfl

theorem KeysDistinct.member {key : String} {value inner : Json} (proper : KeysDistinct value)
    (found : value.member? key = some inner) : KeysDistinct inner := by
  cases proper with
  | single isSingle =>
      rw [member?_of_single isSingle] at found
      cases found
  | object distinct inside =>
      rw [member?, Members.find?_eq_keyed] at found
      exact inside _ (Keyed.mem_of_find? found)

theorem member?_overlay_some {patch inner : Json} {key : String} (proper : KeysDistinct patch)
    (found : patch.member? key = some inner) (base : Json) :
    (base.overlay patch).member? key = some (inner.laidOver (base.member? key)) := by
  cases proper with
  | single isSingle =>
      rw [member?_of_single isSingle] at found
      cases found
  | object distinct inside =>
      have isThere : Members.find? key _ = some inner := found
      rw [Members.find?_eq_keyed] at isThere
      have member := Keyed.mem_of_find? isThere
      rw [overlay_object]
      cases base with
      | object lower => exact find?_overlayMembers_self distinct member lower
      | _ => exact found

theorem member?_overlay_none {members : List (String × Json)} {key : String}
    (absent : Members.find? key members = none) (base : Json) :
    (base.overlay (.object members)).member? key = base.member? key := by
  have notThere : key ∉ Keyed.keys members :=
    Keyed.find?_eq_none_iff.mp (Members.find?_eq_keyed key members ▸ absent)
  rw [overlay_object]
  cases base with
  | object lower => exact find?_overlayMembers_other notThere lower
  | _ => exact absent

/-! ### Laying over twice -/

theorem overlay_self {value : Json} (proper : KeysDistinct value) :
    value.overlay value = value := by
  induction proper with
  | single isSingle => exact overlay_of_single isSingle _
  | @object members distinct _ ih =>
      have settled : overlayMembers members members = members := by
        apply overlayMembers_eq_self
        intro key value member
        refine ⟨value, ?_, ih _ member⟩
        rw [Members.find?_eq_keyed]
        exact Keyed.find?_of_mem distinct member
      rw [overlay_object, isObject, if_pos rfl, Json.members, settled]

theorem overlay_overlay {patch : Json} (proper : KeysDistinct patch) (base : Json) :
    (base.overlay patch).overlay patch = base.overlay patch := by
  induction proper generalizing base with
  | single isSingle => rw [overlay_of_single isSingle, overlay_of_single isSingle]
  | @object members distinct inner ih =>
      cases lower : base.isObject with
      | false =>
          rw [overlay_object base, lower]
          exact overlay_self (.object distinct inner)
      | true =>
          have settled : overlayMembers (overlayMembers base.members members) members =
              overlayMembers base.members members := by
            apply overlayMembers_eq_self
            intro key value member
            refine ⟨_, find?_overlayMembers_self distinct member _, ?_⟩
            cases Members.find? key base.members with
            | none => exact overlay_self (inner _ member)
            | some existing => exact ih _ member existing
          rw [overlay_object base, lower, if_pos rfl, overlay_object, isObject, if_pos rfl,
            Json.members, settled]

/-! ### What is found -/

open FieldPath (ofKeys get?_ofKeys_cons get?_ofKeys_append)

variable {patch : Json}

/-- What the upper value has besides objects is found in the result. -/
theorem get?_overlay_single (proper : KeysDistinct patch) {keys : List String} {value : Json}
    (found : (ofKeys keys).get? patch = some value) (isSingle : value.isObject = false)
    (base : Json) : (ofKeys keys).get? (base.overlay patch) = some value := by
  induction keys generalizing patch base with
  | nil =>
      cases found
      exact congrArg some (overlay_of_single isSingle base)
  | cons key rest ih =>
      rw [get?_ofKeys_cons] at found ⊢
      obtain ⟨inner, isMember, later⟩ := Option.bind_eq_some_iff.mp found
      rw [member?_overlay_some proper isMember, Option.bind_some]
      cases base.member? key with
      | none => exact later
      | some existing => exact ih (proper.member isMember) later existing

/-- Under a key that an object of the upper value lacks, the result is the lower value. -/
theorem get?_overlay_missing (proper : KeysDistinct patch) {before after : List String}
    {key : String} {members : List (String × Json)}
    (reached : (ofKeys before).get? patch = some (.object members))
    (absent : Members.find? key members = none) (base : Json) :
    (ofKeys (before ++ key :: after)).get? (base.overlay patch) =
      (ofKeys (before ++ key :: after)).get? base := by
  induction before generalizing patch base with
  | nil =>
      cases reached
      rw [List.nil_append, get?_ofKeys_cons, get?_ofKeys_cons, member?_overlay_none absent]
  | cons name rest ih =>
      rw [get?_ofKeys_cons] at reached
      obtain ⟨inner, isMember, later⟩ := Option.bind_eq_some_iff.mp reached
      rw [List.cons_append, get?_ofKeys_cons, get?_ofKeys_cons,
        member?_overlay_some proper isMember, Option.bind_some]
      cases base.member? name with
      | none =>
          have nothing : (Json.object members).member? key = none := absent
          rw [laidOver, get?_ofKeys_append, later, Option.bind_some, get?_ofKeys_cons, nothing]
          rfl
      | some existing => exact ih (proper.member isMember) later existing

/-- What is found in the result comes from one of the two values. -/
theorem exists_of_get?_overlay (proper : KeysDistinct patch) {keys : List String} {base : Json}
    (found : ((ofKeys keys).get? (base.overlay patch)).isSome = true) :
    ((ofKeys keys).get? base).isSome = true ∨ ((ofKeys keys).get? patch).isSome = true := by
  induction keys generalizing patch base with
  | nil => exact Or.inl rfl
  | cons key rest ih =>
      cases patch with
      | object members =>
          rw [get?_ofKeys_cons] at found
          rw [get?_ofKeys_cons, get?_ofKeys_cons]
          cases isMember : (Json.object members).member? key with
          | none =>
              rw [member?_overlay_none isMember] at found
              exact Or.inl found
          | some inner =>
              rw [member?_overlay_some proper isMember, Option.bind_some] at found
              cases lower : base.member? key with
              | none =>
                  rw [lower] at found
                  exact Or.inr found
              | some existing =>
                  rw [lower] at found
                  exact ih (proper.member isMember) found
      | _ =>
          rw [overlay_of_single rfl] at found
          exact Or.inr found

/-- Laying over is a merge: the same value again changes nothing, what the upper value has besides
objects wins, under the keys it lacks the lower value stays, and nothing else is found. -/
theorem overlay_merges (proper : KeysDistinct patch) (base : Json) :
    (base.overlay patch).overlay patch = base.overlay patch ∧
    (∀ keys value, (ofKeys keys).get? patch = some value → value.isObject = false →
      (ofKeys keys).get? (base.overlay patch) = some value) ∧
    (∀ before key after members, (ofKeys before).get? patch = some (.object members) →
      Members.find? key members = none →
      (ofKeys (before ++ key :: after)).get? (base.overlay patch) =
        (ofKeys (before ++ key :: after)).get? base) ∧
    (∀ keys, ((ofKeys keys).get? (base.overlay patch)).isSome = true →
      ((ofKeys keys).get? base).isSome = true ∨ ((ofKeys keys).get? patch).isSome = true) := by
  refine ⟨overlay_overlay proper base, ?_, ?_, ?_⟩
  · intro keys value found isSingle
    exact get?_overlay_single proper found isSingle base
  · intro before key after members reached absent
    exact get?_overlay_missing proper reached absent base
  · intro keys found
    exact exists_of_get?_overlay proper found

/-- A nested member and a list are replaced, their neighbours stay. -/
theorem nestedMember_merges :
    let base : Json := .object [("a", .ofNat 1), ("list", .array [.ofNat 1, .ofNat 2]),
      ("nested", .object [("x", .ofNat 1), ("y", .ofNat 2)])]
    let patch : Json := .object [("list", .array [.ofNat 9]),
      ("nested", .object [("y", .ofNat 3)])]
    (base.overlay patch).overlay patch = base.overlay patch ∧
      (ofKeys ["nested", "y"]).get? (base.overlay patch) = some (.ofNat 3) ∧
      (ofKeys ["nested", "x"]).get? (base.overlay patch) = some (.ofNat 1) ∧
      (ofKeys ["list", "x"]).get? (base.overlay patch) = none := by
  intro base patch
  have inner : KeysDistinct (.object [("y", .ofNat 3)]) :=
    .object (by simp [Keyed.Distinct, Keyed.keys]) fun _ isIn =>
      List.mem_singleton.mp isIn ▸ .single rfl
  have proper : KeysDistinct patch := by
    apply KeysDistinct.object
    · simp [Keyed.Distinct, Keyed.keys]
    · intro member isIn
      rcases List.mem_cons.mp isIn with rfl | isLast
      · exact .single rfl
      · exact List.mem_singleton.mp isLast ▸ inner
  obtain ⟨again, upper, lower, only⟩ := overlay_merges proper base
  refine ⟨again, upper ["nested", "y"] _ rfl rfl, ?_, ?_⟩
  · exact lower ["nested"] "x" [] _ rfl rfl
  · have nowhere := mt (only ["list", "x"]) (by decide +kernel)
    exact Option.not_isSome_iff_eq_none.mp nowhere

end Json

end DeclarativeForm
