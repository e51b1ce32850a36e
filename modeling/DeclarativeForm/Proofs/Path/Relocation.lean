import DeclarativeForm.Proofs.Keyed
import DeclarativeForm.Proofs.Path.Grammar
import DeclarativeForm.Proofs.Path.Rename
import Mathlib.Data.List.Nodup

/-!
Keys that follow what they are about. After the removal of an item of a list, the key of a path is
rewritten as a text; it is then the text of the path at which the values hold what the old path led
to. Keys of the item and of what is below it go, all others stay apart, and so the entries of a
table keyed by paths keep their order and what is stored in them.
-/

set_option autoImplicit false

namespace DeclarativeForm.FieldPath

variable {list path target : FieldPath} {removed : Nat}

/-! ### Paths that move -/

private theorem movedPosition_eq_none_iff {position : Nat} (small : position < indexLimit) :
    movedPosition removed position = none ↔ removed = position := by
  rw [movedPosition, if_neg (Nat.not_le.mpr small)]
  by_cases gone : position = removed
  · rw [if_pos gone]
    exact iff_of_true rfl gone.symm
  · rw [if_neg gone]
    refine iff_of_false ?_ (Ne.symm gone)
    split <;> exact Option.some_ne_none _

/-- Only what is at the item that is removed, or below it, leads nowhere any more. -/
theorem afterRemoval_eq_none_iff (inRange : path.InRange) :
    afterRemoval list removed path = none ↔
      (list.item removed).segments <+: path.segments := by
  rw [afterRemoval, Option.map_eq_none_iff, item]
  by_cases inside : ∃ position later, path.segments = list.segments ++ .index position :: later
  · obtain ⟨position, later, split⟩ := inside
    have small : position < indexLimit := by
      refine inRange position ?_
      rw [split]
      exact List.mem_append_right _ List.mem_cons_self
    rw [split, shift_item, Option.map_eq_none_iff, movedPosition_eq_none_iff small,
      List.prefix_append_right_inj, List.cons_prefix_cons, Segment.index.injEq]
    exact (and_iff_left List.nil_prefix).symm
  · rw [shift_eq_self inside]
    refine iff_of_false (Option.some_ne_none _) ?_
    rintro ⟨later, split⟩
    rw [List.append_assoc] at split
    exact inside ⟨removed, later, split.symm⟩

private theorem IsWritable.at_index {front back : List Segment} {position : Nat}
    (writable : IsWritable (front ++ .index position :: back)) (later : Nat) :
    IsWritable (front ++ .index later :: back) := by
  rcases front with _ | ⟨name | place, front⟩
  · cases writable
  · refine ⟨writable.1, fun segment member => ?_⟩
    rcases List.mem_append.mp member with inFront | inBack
    · exact writable.2 segment (List.mem_append_left _ inFront)
    · rcases List.mem_cons.mp inBack with rfl | inBack
      · rfl
      · exact writable.2 segment (List.mem_append_right _ (List.mem_cons_of_mem _ inBack))
  · cases writable

theorem eq_beforeRemoval (inRange : path.InRange)
    (moves : afterRemoval list removed path = some target) :
    path = list.beforeRemoval removed target := by
  obtain ⟨moved, shifts, rfl⟩ := Option.map_eq_some_iff.mp moves
  rcases eq_former_of_shift shifts with same | ⟨same, position, member, large⟩
  · exact congrArg FieldPath.mk same
  · rw [← same] at member
    exact absurd (inRange position member) (Nat.not_lt.mpr large)

/-- Indices do not grow by a removal. -/
theorem inRange_of_beforeRemoval (inRange : (list.beforeRemoval removed target).InRange) :
    target.InRange := by
  obtain ⟨segments⟩ := target
  rw [beforeRemoval] at inRange
  by_cases below : ∃ position rest, segments = list.segments ++ .index position :: rest
  · obtain ⟨position, rest, rfl⟩ := below
    rw [former_item] at inRange
    intro other member
    rcases List.mem_append.mp member with inList | later
    · exact inRange other (List.mem_append_left _ inList)
    · rcases List.mem_cons.mp later with here | inRest
      · cases here
        have former := inRange _ (List.mem_append_right _ List.mem_cons_self)
        unfold formerPosition at former
        split at former <;> omega
      · exact inRange other (List.mem_append_right _ (List.mem_cons_of_mem _ inRest))
  · rw [former_eq_self below] at inRange
    exact inRange

theorem IsWellFormed.afterRemoval (wellFormed : path.IsWellFormed)
    (moves : afterRemoval list removed path = some target) : target.IsWellFormed := by
  obtain ⟨writable, inRange⟩ := wellFormed
  refine ⟨?_, inRange_of_beforeRemoval (eq_beforeRemoval inRange moves ▸ inRange)⟩
  obtain ⟨segments⟩ := path
  obtain ⟨moved, shifts, rfl⟩ := Option.map_eq_some_iff.mp moves
  by_cases inside : ∃ position later, segments = list.segments ++ .index position :: later
  · obtain ⟨position, later, rfl⟩ := inside
    obtain ⟨lower, _, rfl⟩ := eq_of_shift_item shifts
    exact writable.at_index lower
  · rw [shift_eq_self inside] at shifts
    cases shifts
    exact writable

theorem afterRemoval_injective {other : FieldPath} (inRange : path.InRange)
    (otherInRange : other.InRange) (moves : afterRemoval list removed path = some target)
    (otherMoves : afterRemoval list removed other = some target) : path = other := by
  rw [eq_beforeRemoval inRange moves, eq_beforeRemoval otherInRange otherMoves]

/-- What a path led to is found after the removal where the path leads now. -/
theorem get?_afterRemoval {data : Json} {items : List Json}
    (found : list.get? data = some (.array items)) (inItems : removed < items.length)
    (inRange : path.InRange) (apart : ¬path.segments <+: list.segments)
    (moves : afterRemoval list removed path = some target) :
    target.get? ((list.item removed).without data) = path.get? data := by
  have whence := congrArg segments (eq_beforeRemoval inRange moves)
  have outside : ¬target.segments <+: list.segments := by
    intro within
    rw [beforeRemoval, former_eq_self] at whence
    · exact apart (whence ▸ within)
    · rintro ⟨position, later, split⟩
      have longer := within.length_le
      rw [split, List.length_append, List.length_cons] at longer
      omega
  rw [without_item found inItems, get?_eq path, whence]
  exact getAt_former found outside

/-! ### Keys that move -/

theorem IsWellFormed.reindexKey_text (isList : list.IsWellFormed) (wellFormed : path.IsWellFormed)
    (removed : Nat) :
    reindexKey path.text list.text removed = (FieldPath.afterRemoval list removed path).map text :=
  DeclarativeForm.reindexKey_text isList.writable.ne_nil
    (isList.writable.showsItem wellFormed.writable) removed

theorem IsWellFormed.reindex_texts {α : Type} (isList : list.IsWellFormed)
    {entries : List (FieldPath × α)} (distinct : (entries.map Prod.fst).Nodup)
    (wellFormed : ∀ entry ∈ entries, entry.1.IsWellFormed) (removed : Nat) :
    Keyed.reindex (entries.map fun entry => (entry.1.text, entry.2)) list.text removed =
      entries.filterMap fun entry =>
        (FieldPath.afterRemoval list removed entry.1).map fun target => (target.text, entry.2) := by
  have keysAre : Keyed.keys (entries.map fun entry => (entry.1.text, entry.2)) =
      (entries.map Prod.fst).map text := by
    rw [Keyed.keys, List.map_map, List.map_map]
    rfl
  have isPath {path : FieldPath} (member : path ∈ entries.map Prod.fst) : path.IsWellFormed := by
    obtain ⟨entry, isEntry, rfl⟩ := List.mem_map.mp member
    exact wellFormed entry isEntry
  have isDistinct : Keyed.Distinct (entries.map fun entry => (entry.1.text, entry.2)) := by
    rw [Keyed.Distinct, keysAre]
    refine List.Nodup.map_on (fun one isOne two isTwo same => ?_) distinct
    exact text_injective (isPath isOne).writable (isPath isTwo).writable same
  rw [Keyed.reindex_eq_moved isDistinct, Keyed.moved, List.filterMap_map]
  · refine List.filterMap_congr fun entry isEntry => ?_
    rw [Function.comp_apply, isList.reindexKey_text (wellFormed entry isEntry), Option.map_map]
    rfl
  · rw [keysAre]
    intro one isOne two isTwo key lands otherLands
    obtain ⟨onePath, isOnePath, rfl⟩ := List.mem_map.mp isOne
    obtain ⟨twoPath, isTwoPath, rfl⟩ := List.mem_map.mp isTwo
    have shows {path : FieldPath} (member : path ∈ entries.map Prod.fst) :
        ShowsItem list.segments path.segments :=
      isList.writable.showsItem (isPath member).writable
    exact reindexKey_injective isList.writable.ne_nil (shows isOnePath) (shows isTwoPath)
      lands otherLands

/-- The keys of a table follow the removal of an item of a list. -/
theorem reindexing_follows_removal (isList : list.IsWellFormed) {data : Json} {items : List Json}
    (found : list.get? data = some (.array items)) (inItems : removed < items.length) :
    (∀ path : FieldPath, path.IsWellFormed →
        (reindexKey path.text list.text removed = none ↔
          (list.item removed).segments <+: path.segments) ∧
        ∀ key, reindexKey path.text list.text removed = some key →
          ∃ target, afterRemoval list removed path = some target ∧ target.IsWellFormed ∧
            target.text = key ∧
            (¬path.segments <+: list.segments →
              target.get? ((list.item removed).without data) = path.get? data)) ∧
      (∀ path other target : FieldPath, path.IsWellFormed → other.IsWellFormed →
        afterRemoval list removed path = some target →
        afterRemoval list removed other = some target → path = other) ∧
      ∀ (α : Type) (entries : List (FieldPath × α)), (entries.map Prod.fst).Nodup →
        (∀ entry ∈ entries, entry.1.IsWellFormed) →
        Keyed.reindex (entries.map fun entry => (entry.1.text, entry.2)) list.text removed =
          entries.filterMap fun entry =>
            (afterRemoval list removed entry.1).map fun target => (target.text, entry.2) := by
  refine ⟨fun path wellFormed => ⟨?_, fun key lands => ?_⟩, ?_, ?_⟩
  · rw [isList.reindexKey_text wellFormed, Option.map_eq_none_iff,
      afterRemoval_eq_none_iff wellFormed.inRange]
  · rw [isList.reindexKey_text wellFormed] at lands
    obtain ⟨target, moves, isKey⟩ := Option.map_eq_some_iff.mp lands
    exact ⟨target, moves, wellFormed.afterRemoval moves, isKey,
      fun apart => get?_afterRemoval found inItems wellFormed.inRange apart moves⟩
  · intro path other target wellFormed isOther
    exact afterRemoval_injective wellFormed.inRange isOther.inRange
  · intro α entries distinct wellFormed
    exact isList.reindex_texts distinct wellFormed removed

def thirteen : List Json := (List.range 13).map fun position => .string (toString position)

/-- Of thirteen items the last one is found one place lower after the removal of the fourth, and so
is what is stored for it. -/
theorem lastItem_moves :
    FieldPath.get? ⟨[.key "items", .index 11]⟩
        (without ⟨[.key "items", .index 3]⟩ (.object [("items", .array thirteen)])) =
        FieldPath.get? ⟨[.key "items", .index 12]⟩ (.object [("items", .array thirteen)]) ∧
      Keyed.reindex [("items[12]", 7), ("items[3]", 8), ("item", 9)] "items" 3 =
        [("items[11]", 7), ("item", 9)] := by
  have isList : IsWellFormed ⟨[.key "items"]⟩ := ⟨by decide, by decide⟩
  have isLast : IsWellFormed ⟨[.key "items", .index 12]⟩ := ⟨by decide, by decide⟩
  have isFourth : IsWellFormed ⟨[.key "items", .index 3]⟩ := ⟨by decide, by decide⟩
  have isOther : IsWellFormed ⟨[.key "item"]⟩ := ⟨by decide, by decide⟩
  have found : FieldPath.get? ⟨[.key "items"]⟩ (.object [("items", .array thirteen)]) =
      some (.array thirteen) := rfl
  have inItems : 3 < thirteen.length := by decide
  obtain ⟨each, _, table⟩ := reindexing_follows_removal isList found inItems
  constructor
  · obtain ⟨target, moves, _, _, same⟩ := (each _ isLast).2 "items[11]" (by decide +kernel)
    cases moves
    exact same (by decide)
  · have moved := table Nat
      [(⟨[.key "items", .index 12]⟩, 7), (⟨[.key "items", .index 3]⟩, 8), (⟨[.key "item"]⟩, 9)]
      (by decide) (by simp [isLast, isFourth, isOther])
    exact moved

end DeclarativeForm.FieldPath
