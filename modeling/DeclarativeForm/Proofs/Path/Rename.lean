import DeclarativeForm.Proofs.Path.Plain
import DeclarativeForm.Proofs.Path.Shift
import DeclarativeForm.Proofs.Path.Weight

/-!
Keys of tables and the paths they are texts of. The path of a node is made of names with an index
between any two of them; below the name of a flow there may be the name of a step, whatever that is.
The texts of such paths show which items they lead through, as those of all paths of plain names do.
Different paths of this kind have different texts. So a key moves after a removal as the path does
that it is the text of, and no two keys move to one.
-/

set_option autoImplicit false

namespace DeclarativeForm

open FieldPath

namespace FieldPath

inductive Alternating : List Segment → Prop
  | last {name : String} (plain : isPlainName name = true) : Alternating [.key name]
  | inside {name : String} {position : Nat} {rest : List Segment}
      (plain : isPlainName name = true) (later : Alternating rest) :
      Alternating (.key name :: .index position :: rest)

inductive IsTail : List Segment → Prop
  | nil : IsTail []
  | step (id : String) : IsTail [.key id]

variable {front list tail : List Segment}

theorem Alternating.exists_cons (alternating : Alternating front) :
    ∃ name later, front = .key name :: later ∧ isPlainName name = true := by
  cases alternating with
  | last plain => exact ⟨_, _, rfl, plain⟩
  | inside plain => exact ⟨_, _, rfl, plain⟩

theorem Alternating.ne_nil (alternating : Alternating front) : front ≠ [] := by
  cases alternating <;> exact List.cons_ne_nil _ _

theorem IsWritable.ne_nil (writable : IsWritable front) : front ≠ [] := by
  rintro rfl
  exact writable

theorem characters_append (filled : front ≠ []) (back : List Segment) :
    characters (front ++ back) = characters front ++ back.flatMap laterSegment := by
  obtain ⟨first, later, rfl⟩ := List.exists_cons_of_ne_nil filled
  rw [List.cons_append, characters, characters, List.flatMap_append, List.append_assoc]

private theorem later_item (position : Nat) (rest : List Segment) :
    (Segment.index position :: rest).flatMap laterSegment =
      '[' :: (numeral position ++ ']' :: rest.flatMap laterSegment) := by
  rw [List.flatMap_cons, laterSegment_index]

private theorem characters_last (name : String) (tail : List Segment) :
    characters ([.key name] ++ tail) = name.toList ++ tail.flatMap laterSegment := rfl

/-- After an index a path goes on with a point and its text. -/
private theorem characters_inside (name : String) (position : Nat)
    (alternating : Alternating front) (tail : List Segment) :
    characters (.key name :: .index position :: front ++ tail) =
      name.toList ++ '[' :: (numeral position ++ ']' :: '.' :: characters (front ++ tail)) := by
  obtain ⟨inner, later, rfl, _⟩ := alternating.exists_cons
  rw [List.cons_append, List.cons_append, characters, later_item]
  rfl

private theorem takeWhile_bracket (rest : List Char) :
    ('[' :: rest).takeWhile isOrdinary = [] := rfl

private theorem IsTail.ne_bracket (isTail : IsTail tail) (rest : List Char) :
    tail.flatMap laterSegment ≠ '[' :: rest := by
  cases isTail with
  | nil => exact (List.cons_ne_nil _ _).symm
  | step id =>
      intro same
      cases List.head_eq_of_cons_eq same

/-- Some segments lead through an item of a list if their text goes on after that of the list with
an opening bracket. -/
def ShowsItem (list segments : List Segment) : Prop :=
  ∀ rest, characters segments = characters list ++ '[' :: rest →
    ∃ position later, segments = list ++ .index position :: later

theorem Alternating.showsItem (isList : Alternating list) (alternating : Alternating front)
    (isTail : IsTail tail) : ShowsItem list (front ++ tail) := by
  intro rest same
  induction isList generalizing front with
  | @last name plain =>
      have split : characters [Segment.key name] ++ '[' :: rest = name.toList ++ '[' :: rest :=
        congrArg (· ++ '[' :: rest) (List.append_nil _)
      rw [split] at same
      cases alternating with
      | @last otherName otherPlain =>
          rw [characters_last] at same
          obtain ⟨_, tails⟩ := name_append_injective (isName_of_isPlainName otherPlain)
            (isName_of_isPlainName plain) (takeWhile_later _) (takeWhile_bracket _) same
          exact absurd tails (isTail.ne_bracket _)
      | @inside otherName position later otherPlain isLater =>
          rw [characters_inside _ _ isLater] at same
          obtain ⟨names, _⟩ := name_append_injective (isName_of_isPlainName otherPlain)
            (isName_of_isPlainName plain) (takeWhile_bracket _) (takeWhile_bracket _) same
          exact ⟨position, later ++ tail, by rw [names]; rfl⟩
  | @inside name position list plain isRest ih =>
      have split : characters (.key name :: .index position :: list) ++ '[' :: rest =
          name.toList ++ '[' :: (numeral position ++ ']' :: '.' ::
            (characters list ++ '[' :: rest)) := by
        have whole := characters_inside name position isRest []
        rw [List.append_nil, List.append_nil] at whole
        rw [whole]
        simp only [List.append_assoc, List.cons_append]
      rw [split] at same
      cases alternating with
      | @last otherName otherPlain =>
          rw [characters_last] at same
          obtain ⟨_, tails⟩ := name_append_injective (isName_of_isPlainName otherPlain)
            (isName_of_isPlainName plain) (takeWhile_later _) (takeWhile_bracket _) same
          exact absurd tails (isTail.ne_bracket _)
      | @inside otherName otherPosition later otherPlain isLater =>
          rw [characters_inside _ _ isLater] at same
          obtain ⟨names, tails⟩ := name_append_injective (isName_of_isPlainName otherPlain)
            (isName_of_isPlainName plain) (takeWhile_bracket _) (takeWhile_bracket _) same
          obtain ⟨positions, rests⟩ := index_append_injective (List.tail_eq_of_cons_eq tails)
          obtain ⟨place, below, whole⟩ := ih isLater (List.tail_eq_of_cons_eq rests)
          refine ⟨place, below, ?_⟩
          rw [List.cons_append, List.cons_append, names, positions, whole]
          rfl

private theorem IsTail.eq_of_later {ending : List Segment} (isTail : IsTail tail)
    (isEnding : IsTail ending)
    (same : tail.flatMap laterSegment = ending.flatMap laterSegment) : tail = ending := by
  cases isTail with
  | nil =>
      cases isEnding with
      | nil => rfl
      | step id => cases same
  | step id =>
      cases isEnding with
      | nil => cases same
      | step otherId =>
          simp only [List.flatMap_cons, List.flatMap_nil, List.append_nil, laterSegment,
            List.cons.injEq, true_and, String.toList_inj] at same
          rw [same]

/-- The text of the path of a node, with the name of a step below it or without, tells the path and
the step. -/
theorem Alternating.characters_injective {other ending : List Segment}
    (alternating : Alternating front) (isOther : Alternating other) (isTail : IsTail tail)
    (isEnding : IsTail ending) (same : characters (front ++ tail) = characters (other ++ ending)) :
    front = other ∧ tail = ending := by
  induction alternating generalizing other with
  | @last name plain =>
      rw [characters_last] at same
      cases isOther with
      | @last otherName otherPlain =>
          rw [characters_last] at same
          obtain ⟨rfl, tails⟩ := name_append_injective (isName_of_isPlainName plain)
            (isName_of_isPlainName otherPlain) (takeWhile_later _) (takeWhile_later _) same
          exact ⟨rfl, isTail.eq_of_later isEnding tails⟩
      | @inside otherName position later otherPlain isLater =>
          rw [characters_inside _ _ isLater] at same
          obtain ⟨_, tails⟩ := name_append_injective (isName_of_isPlainName plain)
            (isName_of_isPlainName otherPlain) (takeWhile_later _) (takeWhile_bracket _) same
          exact absurd tails (isTail.ne_bracket _)
  | @inside name position rest plain isRest ih =>
      rw [characters_inside _ _ isRest] at same
      cases isOther with
      | @last otherName otherPlain =>
          rw [characters_last] at same
          obtain ⟨_, tails⟩ := name_append_injective (isName_of_isPlainName plain)
            (isName_of_isPlainName otherPlain) (takeWhile_bracket _) (takeWhile_later _) same
          exact absurd tails.symm (isEnding.ne_bracket _)
      | @inside otherName otherPosition later otherPlain isLater =>
          rw [characters_inside _ _ isLater] at same
          obtain ⟨rfl, tails⟩ := name_append_injective (isName_of_isPlainName plain)
            (isName_of_isPlainName otherPlain) (takeWhile_bracket _) (takeWhile_bracket _) same
          obtain ⟨rfl, rests⟩ := index_append_injective (List.tail_eq_of_cons_eq tails)
          obtain ⟨rfl, endings⟩ := ih isLater (List.tail_eq_of_cons_eq rests)
          exact ⟨rfl, endings⟩

theorem IsWritable.showsItem {segments : List Segment} (isList : IsWritable list)
    (writable : IsWritable segments) : ShowsItem list segments := by
  intro rest same
  obtain ⟨later, rfl, written⟩ := isList.exists_append writable (takeWhile_bracket rest) same
  rcases later with _ | ⟨name | position, later⟩
  · cases written
  · cases List.head_eq_of_cons_eq written
  · exact ⟨position, later, rfl⟩

theorem characters_item (isList : list ≠ []) (position : Nat) (later : List Segment) :
    characters (list ++ .index position :: later) =
      characters list ++ '[' :: (numeral position ++ ']' :: later.flatMap laterSegment) := by
  rw [characters_append isList, later_item]

end FieldPath

theorem stripStart_append (start rest : List Char) :
    stripStart start (start ++ rest) = some rest := by
  induction start with
  | nil => rfl
  | cons c start ih => rw [List.cons_append, stripStart, if_pos rfl, ih]

theorem toList_text (path : FieldPath) : path.text.toList = characters path.segments :=
  String.toList_ofList

section Moving

variable {list segments : List Segment} (isList : list ≠ []) (shows : ShowsItem list segments)

include isList shows

theorem reindexKey_text (removed : Nat) :
    reindexKey (text ⟨segments⟩) (text ⟨list⟩) removed =
      (afterRemoval ⟨list⟩ removed ⟨segments⟩).map text := by
  simp only [reindexKey, toList_text, afterRemoval]
  by_cases inside : ∃ position later, segments = list ++ .index position :: later
  · obtain ⟨position, later, rfl⟩ := inside
    have split (place : Nat) : characters (list ++ .index place :: later) =
        characters list ++ ['['] ++ (numeral place ++ ']' :: later.flatMap laterSegment) := by
      rw [characters_item isList, List.append_assoc]
      rfl
    have clean : ']' ∉ numeral position := not_mem_numeral (by decide)
    rw [split, stripStart_append]
    simp only [splitAtBracket_append clean, bracketedIndex?_numeral_eq, shift_item, movedPosition]
    by_cases large : indexLimit ≤ position
    · rw [if_pos large, if_pos large]
      rfl
    · rw [if_neg large, if_neg large]
      by_cases gone : position = removed
      · simp only [if_pos gone, Option.map_none]
      · simp only [if_neg gone]
        by_cases after : removed < position
        · rw [if_pos after, if_pos after, Option.map_some, Option.map_some, Option.map_some, text,
            split, List.append_assoc]
          rfl
        · rw [if_neg after, if_neg after]
          rfl
  · have absent : stripStart (characters list ++ ['[']) (characters segments) = none := by
      cases stripped : stripStart (characters list ++ ['[']) (characters segments) with
      | none => rfl
      | some rest =>
          have same := stripStart_eq_some stripped
          rw [List.append_assoc] at same
          exact absurd (shows rest same) inside
    rw [absent, shift_eq_self inside]
    rfl

theorem reindexKey_injective {other : List Segment} (showsOther : ShowsItem list other)
    {removed : Nat} {key : String}
    (first : reindexKey (text ⟨segments⟩) (text ⟨list⟩) removed = some key)
    (second : reindexKey (text ⟨other⟩) (text ⟨list⟩) removed = some key) :
    text ⟨segments⟩ = text ⟨other⟩ := by
  rw [reindexKey_text isList shows, afterRemoval, Option.map_map] at first
  rw [reindexKey_text isList showsOther, afterRemoval, Option.map_map] at second
  obtain ⟨target, moves, rfl⟩ := Option.map_eq_some_iff.mp first
  obtain ⟨otherTarget, otherMoves, same⟩ := Option.map_eq_some_iff.mp second
  have texts : characters target = characters otherTarget := (String.ofList_injective same).symm
  by_cases inside : ∃ position later, segments = list ++ .index position :: later
  · obtain ⟨position, later, rfl⟩ := inside
    obtain ⟨lower, moved, rfl⟩ := eq_of_shift_item moves
    rw [characters_item isList] at texts
    by_cases otherInside : ∃ position later, other = list ++ .index position :: later
    · obtain ⟨otherPosition, otherLater, rfl⟩ := otherInside
      obtain ⟨otherLower, otherMoved, rfl⟩ := eq_of_shift_item otherMoves
      rw [characters_item isList, List.append_cancel_left_eq] at texts
      obtain ⟨positions, tails⟩ := index_append_injective (List.tail_eq_of_cons_eq texts)
      have before := movedPosition_injective moved (positions ▸ otherMoved)
      rw [text, text, characters_item isList, characters_item isList, before, tails]
    · rw [shift_eq_self otherInside] at otherMoves
      cases otherMoves
      exact absurd (showsOther _ texts.symm) otherInside
  · rw [shift_eq_self inside] at moves
    cases moves
    by_cases otherInside : ∃ position later, other = list ++ .index position :: later
    · obtain ⟨otherPosition, otherLater, rfl⟩ := otherInside
      obtain ⟨otherLower, _, rfl⟩ := eq_of_shift_item otherMoves
      rw [characters_item isList] at texts
      exact absurd (shows _ texts) inside
    · rw [shift_eq_self otherInside] at otherMoves
      cases otherMoves
      rw [text, text, texts]

end Moving

end DeclarativeForm
