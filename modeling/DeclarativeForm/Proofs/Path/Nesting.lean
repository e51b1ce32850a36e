import DeclarativeForm.Store
import DeclarativeForm.Proofs.Keyed
import DeclarativeForm.Proofs.Path.Rename
import Mathlib.Data.List.Nodup

/-!
Nesting of paths and of their texts. A text is under another one when it goes on after it with a
point or a bracket, which no name holds and with which every later segment starts. So the text of a
path is under that of another exactly when the other is a front of the path, whatever their names
and numbers have in common. Replacing the errors under some texts therefore replaces those at the
paths that go on after some paths.
-/

set_option autoImplicit false

namespace DeclarativeForm

namespace FieldPath

/-- The text of a path is under that of another exactly when the path goes on after the other. -/
theorem isUnder_text_iff_prefix {path ancestor : FieldPath} (writable : IsWritable path.segments)
    (isAncestor : IsWritable ancestor.segments) :
    isUnder path.text ancestor.text = true ↔ ancestor.segments <+: path.segments := by
  rw [isUnder, toList_text, toList_text]
  constructor
  · intro under
    cases stripped : stripStart (characters ancestor.segments) (characters path.segments) with
    | none =>
        rw [stripped] at under
        cases under
    | some rest =>
        rw [stripped] at under
        -- Names go on with ordinary characters only, so what is left starts a segment of its own.
        have ends : rest.takeWhile isOrdinary = [] := by
          cases rest with
          | nil => rfl
          | cons c rest =>
              have mark : c = '.' ∨ c = '[' := by simpa using under
              rcases mark with rfl | rfl <;> rfl
        obtain ⟨later, whole, _⟩ :=
          isAncestor.exists_append writable ends (stripStart_eq_some stripped)
        exact ⟨later, whole.symm⟩
  · rintro ⟨later, whole⟩
    rw [← whole, characters_append isAncestor.ne_nil, stripStart_append]
    cases later with
    | nil => rfl
    | cons segment rest => cases segment <;> rfl

end FieldPath

open FieldPath

/-- Errors at paths that are written with names, no two of them at one path. -/
structure ArePathErrors (errors : List (FieldPath × String)) : Prop where
  writable : ∀ entry ∈ errors, IsWritable entry.1.segments
  distinct : (errors.map Prod.fst).Nodup

def ErrorMap.ofPaths (errors : List (FieldPath × String)) : ErrorMap :=
  errors.map fun entry => (entry.1.text, entry.2)

def outside (ancestors : List FieldPath) (errors : List (FieldPath × String)) :
    List (FieldPath × String) :=
  errors.filter fun entry => ∀ ancestor ∈ ancestors, ¬ancestor.segments <+: entry.1.segments

/-- Errors with new ones added: one at the path of an error takes the place of its message, the
others follow. -/
def withAdded (new errors : List (FieldPath × String)) : List (FieldPath × String) :=
  (errors.map fun entry => (entry.1, (new.lookup entry.1).getD entry.2)) ++
    new.filter fun entry => entry.1 ∉ errors.map Prod.fst

namespace ArePathErrors

variable {errors new : List (FieldPath × String)} {ancestors : List FieldPath}

theorem outside (areErrors : ArePathErrors errors) (ancestors : List FieldPath) :
    ArePathErrors (outside ancestors errors) :=
  ⟨fun entry member => areErrors.writable entry (List.mem_filter.mp member).1,
    areErrors.distinct.sublist (List.filter_sublist.map _)⟩

theorem mem_keys_iff (areErrors : ArePathErrors errors) {path : FieldPath}
    (writable : IsWritable path.segments) :
    path.text ∈ Keyed.keys (ErrorMap.ofPaths errors) ↔ path ∈ errors.map Prod.fst := by
  rw [Keyed.keys, ErrorMap.ofPaths, List.map_map]
  constructor
  · intro member
    obtain ⟨entry, isEntry, same⟩ := List.mem_map.mp member
    have isPath := text_injective (areErrors.writable entry isEntry) writable same
    exact List.mem_map.mpr ⟨entry, isEntry, isPath⟩
  · intro member
    obtain ⟨entry, isEntry, rfl⟩ := List.mem_map.mp member
    exact List.mem_map_of_mem isEntry

theorem distinct_ofPaths (areErrors : ArePathErrors errors) :
    Keyed.Distinct (ErrorMap.ofPaths errors) := by
  have texts : Keyed.keys (ErrorMap.ofPaths errors) = (errors.map Prod.fst).map text := by
    rw [Keyed.keys, ErrorMap.ofPaths, List.map_map, List.map_map]
    rfl
  rw [Keyed.Distinct, texts]
  refine List.Nodup.map_on (fun first isFirst second isSecond same => ?_) areErrors.distinct
  obtain ⟨entry, isEntry, rfl⟩ := List.mem_map.mp isFirst
  obtain ⟨other, isOther, rfl⟩ := List.mem_map.mp isSecond
  exact text_injective (areErrors.writable entry isEntry) (areErrors.writable other isOther) same

theorem find?_ofPaths (areErrors : ArePathErrors errors) {path : FieldPath}
    (writable : IsWritable path.segments) :
    Keyed.find? path.text (ErrorMap.ofPaths errors) = errors.lookup path := by
  have writables := areErrors.writable
  clear areErrors
  induction errors with
  | nil => rfl
  | cons entry rest ih =>
      obtain ⟨first, message⟩ := entry
      have later := ih fun entry member => writables entry (List.mem_cons_of_mem _ member)
      rw [ErrorMap.ofPaths, List.map_cons, ← ErrorMap.ofPaths, Keyed.find?, List.lookup_cons, later]
      by_cases same : first = path
      · simp [same]
      · have texts : first.text ≠ path.text := fun equal =>
          same (text_injective (writables _ List.mem_cons_self) writable equal)
        rw [if_neg texts, beq_eq_false_iff_ne.mpr (Ne.symm same)]

theorem filter_ofPaths (areErrors : ArePathErrors errors)
    (areAncestors : ∀ ancestor ∈ ancestors, IsWritable ancestor.segments) :
    (ErrorMap.ofPaths errors).filter (fun entry =>
        !(ancestors.map text).any fun ancestor => isUnder entry.1 ancestor) =
      ErrorMap.ofPaths (DeclarativeForm.outside ancestors errors) := by
  rw [ErrorMap.ofPaths, List.filter_map, ErrorMap.ofPaths, DeclarativeForm.outside]
  refine congrArg _ (List.filter_congr fun entry member => ?_)
  have nested (ancestor : FieldPath) (isAncestor : ancestor ∈ ancestors) :=
    isUnder_text_iff_prefix (areErrors.writable entry member) (areAncestors ancestor isAncestor)
  rw [Bool.eq_iff_iff]
  simp only [Function.comp_apply, Bool.not_eq_true', List.any_map, List.any_eq_false,
    decide_eq_true_eq]
  exact forall₂_congr fun ancestor isAncestor => not_congr (nested ancestor isAncestor)

theorem putAll_ofPaths (areErrors : ArePathErrors errors) (areNew : ArePathErrors new) :
    Keyed.putAll (ErrorMap.ofPaths new) (ErrorMap.ofPaths errors) =
      ErrorMap.ofPaths (withAdded new errors) := by
  rw [Keyed.putAll_eq areErrors.distinct_ofPaths areNew.distinct_ofPaths]
  simp only [ErrorMap.ofPaths, withAdded, List.map_append, List.map_map, List.filter_map]
  congr 1
  · refine List.map_congr_left fun entry member => ?_
    have found := areNew.find?_ofPaths (areErrors.writable entry member)
    rw [ErrorMap.ofPaths] at found
    simp [found]
  · refine congrArg _ (List.filter_congr fun entry member => ?_)
    have isKey := areErrors.mem_keys_iff (areNew.writable entry member)
    rw [ErrorMap.ofPaths] at isKey
    exact decide_eq_decide.mpr (not_congr isKey)

end ArePathErrors

/-- Nesting of paths is read off their texts: the text of a path is under that of another exactly
when the path goes on after the other. So a merge keeps the errors at paths that go on after none of
those given, in their order, and adds the new ones. -/
theorem mergeErrorsUnder_follows_nesting :
    (∀ path ancestor : FieldPath, IsWritable path.segments → IsWritable ancestor.segments →
      (isUnder path.text ancestor.text = true ↔ ancestor.segments <+: path.segments)) ∧
    ∀ (store : Store) (errors new : List (FieldPath × String)) (ancestors : List FieldPath),
      store.errors = .ofPaths errors → ArePathErrors errors → ArePathErrors new →
      (∀ ancestor ∈ ancestors, IsWritable ancestor.segments) →
      store.mergeErrorsUnder (ancestors.map text) (.ofPaths new) =
        { store with errors := .ofPaths (withAdded new (outside ancestors errors)) } := by
  refine ⟨fun path ancestor => isUnder_text_iff_prefix, ?_⟩
  intro store errors new ancestors written areErrors areNew areAncestors
  have kept := areErrors.filter_ofPaths areAncestors
  have added := (areErrors.outside ancestors).putAll_ofPaths areNew
  rw [Store.mergeErrorsUnder, written, kept, added]

/-- Errors of items whose numbers start alike, and of a field whose name goes on after theirs. -/
def itemErrors : List (FieldPath × String) :=
  [(⟨[.key "items", .index 1, .key "name"]⟩, "Name it"),
    (⟨[.key "items", .index 12, .key "name"]⟩, "Name this too"),
    (⟨[.key "itemsTotal"]⟩, "Too much"),
    (⟨[.key "items", .index 1]⟩, "Incomplete")]

def secondItem : FieldPath := ⟨[.key "items", .index 1]⟩

def lateErrors : List (FieldPath × String) :=
  [(⟨[.key "items", .index 1, .key "price"]⟩, "Price it"), (⟨[.key "itemsTotal"]⟩, "Far too much")]

/-- The errors of the second item go, and only they. -/
theorem secondItem_errors_replaced :
    isUnder "items[12].name" "items[1]" = false ∧ isUnder "items[1].name" "items[1]" = true ∧
      (({ Store.ofInitial .null with errors := .ofPaths itemErrors }).mergeErrorsUnder ["items[1]"]
        (.ofPaths lateErrors)).errors =
        [("items[12].name", "Name this too"), ("itemsTotal", "Far too much"),
          ("items[1].price", "Price it")] := by
  have areErrors : ArePathErrors itemErrors := ⟨by decide +kernel, by decide +kernel⟩
  have areNew : ArePathErrors lateErrors := ⟨by decide +kernel, by decide +kernel⟩
  have isAncestor : ∀ ancestor ∈ [secondItem], IsWritable ancestor.segments := by decide +kernel
  obtain ⟨nesting, merging⟩ := mergeErrorsUnder_follows_nesting
  have other := nesting ⟨[.key "items", .index 12, .key "name"]⟩ secondItem (by decide +kernel)
    (by decide +kernel)
  have same := nesting ⟨[.key "items", .index 1, .key "name"]⟩ secondItem (by decide +kernel)
    (by decide +kernel)
  have merged := merging { Store.ofInitial .null with errors := .ofPaths itemErrors } itemErrors
    lateErrors [secondItem] rfl areErrors areNew isAncestor
  have texts : (⟨[.key "items", .index 12, .key "name"]⟩ : FieldPath).text = "items[12].name" ∧
      (⟨[.key "items", .index 1, .key "name"]⟩ : FieldPath).text = "items[1].name" ∧
      secondItem.text = "items[1]" := by decide +kernel
  obtain ⟨twelfth, first, ancestor⟩ := texts
  rw [twelfth, ancestor] at other
  rw [first, ancestor] at same
  rw [List.map_singleton, ancestor] at merged
  refine ⟨eq_false_of_ne_true (mt other.mp (by decide)), same.mpr (by decide), ?_⟩
  rw [merged]
  decide +kernel

end DeclarativeForm
