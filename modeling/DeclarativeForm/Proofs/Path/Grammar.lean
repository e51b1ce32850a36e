import DeclarativeForm.Proofs.Path.Plain
import Mathlib.Data.List.Infix

/-!
The texts that are read as paths. A text is read when it is not blank and consists of a name and any
number of parts; a part is a name after a point or an index in brackets. A point may also stand right
before a bracket, and texts in which none does are those of the plain grammar. What is read has
names that can be written and indices in range, so that reading and writing are inverse to each
other on such paths.
-/

set_option autoImplicit false

namespace DeclarativeForm.FieldPath

/-- The digits are a decimal numeral of an index; it may start with zeros. -/
structure Denotes (digits : List Char) (position : Nat) : Prop where
  filled : digits ≠ []
  decimal : ∀ c ∈ digits, c.isDigit = true
  value : Nat.ofDigitChars 10 digits 0 = position
  inRange : position < indexLimit

theorem indexOfDigits?_eq_some_iff {digits : List Char} {position : Nat}
    (decimal : ∀ c ∈ digits, c.isDigit = true) :
    indexOfDigits? digits = some position ↔ Denotes digits position := by
  have value : digits.foldl (fun value digit => 10 * value + (digit.toNat - 48)) 0 =
      Nat.ofDigitChars 10 digits 0 := rfl
  simp only [indexOfDigits?, value]
  constructor
  · intro read
    split at read
    · cases read
    · rename_i accepted
      simp only [Bool.or_eq_true, List.isEmpty_iff, decide_eq_true_eq, not_or, Nat.not_le]
        at accepted
      cases read
      exact ⟨accepted.1, decimal, rfl, accepted.2⟩
  · intro denotes
    have small : ¬indexLimit ≤ position := Nat.not_le.mpr denotes.inRange
    simp [denotes.filled, denotes.value, small]

/-! ### Texts by their parts -/

inductive Part
  | name (text : String) (named : isName text = true)
  | index (pointed : Bool) (digits : List Char) (position : Nat) (denotes : Denotes digits position)

namespace Part

def characters : Part → List Char
  | name text _ => '.' :: text.toList
  | index pointed digits _ _ => (if pointed then ['.'] else []) ++ '[' :: (digits ++ [']'])

def segment : Part → Segment
  | name text _ => .key text
  | index _ _ position _ => .index position

def isPointed : Part → Bool
  | name _ _ => false
  | index pointed _ _ _ => pointed

end Part

def written (parts : List Part) : List Char := parts.flatMap Part.characters

theorem written_name {text : String} (named : isName text = true) (parts : List Part) :
    written (.name text named :: parts) = '.' :: (text.toList ++ written parts) := rfl

theorem written_index {digits : List Char} {position : Nat} (denotes : Denotes digits position)
    (parts : List Part) :
    written (.index false digits position denotes :: parts) =
      '[' :: (digits ++ ']' :: written parts) := by
  simp [written, Part.characters]

theorem written_pointed {digits : List Char} {position : Nat} (denotes : Denotes digits position)
    (parts : List Part) :
    written (.index true digits position denotes :: parts) =
      '.' :: '[' :: (digits ++ ']' :: written parts) := by
  simp [written, Part.characters]

/-! ### What consists of parts is read -/

private theorem readFrom_index {digits : List Char} {position : Nat}
    (denotes : Denotes digits position) (rest : List Char) :
    readFrom (.bracket []) (digits ++ ']' :: rest) =
      (readFrom .index rest).map (.index position :: ·) := by
  rw [readFrom_digits denotes.decimal, readFrom, if_pos rfl, List.append_nil, List.reverse_reverse,
    (indexOfDigits?_eq_some_iff denotes.decimal).mpr denotes]

theorem readFrom_written (parts : List Part) (read : List Char) :
    readFrom (.name read) (written parts) =
        .ok (.key (String.ofList read.reverse) :: parts.map Part.segment) ∧
      readFrom .index (written parts) = .ok (parts.map Part.segment) := by
  induction parts generalizing read with
  | nil => exact ⟨rfl, rfl⟩
  | cons part parts ih =>
      cases part with
      | name text named =>
          have below : readFrom .point (text.toList ++ written parts) =
              .ok (.key text :: parts.map Part.segment) := by
            rw [(readFrom_first named _).1, (ih _).1, List.reverse_reverse, String.ofList_toList]
          rw [written_name]
          constructor
          · rw [readFrom, if_pos rfl, below]
            rfl
          · rw [readFrom, if_pos rfl, below]
            rfl
      | index pointed digits position denotes =>
          have below : readFrom (.bracket []) (digits ++ ']' :: written parts) =
              .ok (.index position :: parts.map Part.segment) := by
            rw [readFrom_index denotes, (ih []).2]
            rfl
          cases pointed with
          | false =>
              rw [written_index]
              constructor
              · rw [readFrom, if_neg (by decide), if_pos rfl, below]
                rfl
              · rw [readFrom, if_neg (by decide), if_pos rfl, below]
                rfl
          | true =>
              have behind : readFrom .point ('[' :: (digits ++ ']' :: written parts)) =
                  .ok (.index position :: parts.map Part.segment) := by
                rw [readFrom, if_neg (by decide), if_pos rfl, below]
              rw [written_pointed]
              constructor
              · rw [readFrom, if_pos rfl, behind]
                rfl
              · rw [readFrom, if_pos rfl, behind]
                rfl

/-! ### What is read consists of parts -/

namespace Mark

/-- What of the part it is in the reader has seen at a mark. -/
def seen : Mark → List Char
  | start => []
  | name read => '.' :: read.reverse
  | point => ['.']
  | bracket digits => '[' :: digits.reverse
  | index => []

/-- The reader has seen nothing that it would have refused. -/
def Sound : Mark → Prop
  | start => False
  | name read => isName (String.ofList read.reverse) = true
  | bracket digits => ∀ c ∈ digits, c.isDigit = true
  | point | index => True

end Mark

private theorem map_eq_ok {segment : Segment} {result : Except PathFault (List Segment)}
    {segments : List Segment} (done : result.map (segment :: ·) = .ok segments) :
    ∃ later, result = .ok later ∧ segments = segment :: later := by
  cases result with
  | error fault => cases done
  | ok later =>
      cases done
      exact ⟨later, rfl, rfl⟩

/-- A point before an index in brackets may be left out. -/
private theorem exists_pointed {parts : List Part} {rest : List Char}
    (starts : '[' :: rest = written parts) :
    ∃ pointed, '.' :: '[' :: rest = written pointed ∧
      parts.map Part.segment = pointed.map Part.segment := by
  rcases parts with _ | ⟨⟨text, named⟩ | ⟨_ | _, digits, position, denotes⟩, parts⟩
  · cases starts
  · cases List.head_eq_of_cons_eq starts
  · refine ⟨.index true digits position denotes :: parts, ?_, rfl⟩
    rw [starts, written_index, written_pointed]
  · cases List.head_eq_of_cons_eq starts

private theorem isName_concat {read : List Char} {c : Char}
    (named : isName (String.ofList read.reverse) = true) (ordinary : isOrdinary c = true) :
    isName (String.ofList (c :: read).reverse) = true := by
  simp_all [isName]

def ReadsParts (mark : Mark) (characters : List Char) : Prop :=
  ∀ segments, readFrom mark characters = .ok segments →
    ∃ parts, mark.seen ++ characters = written parts ∧ segments = parts.map Part.segment

section Steps

variable {c : Char} {rest : List Char} (below : ∀ mark : Mark, mark.Sound → ReadsParts mark rest)

include below

private theorem readsParts_name {read : List Char}
    (named : isName (String.ofList read.reverse) = true) : ReadsParts (.name read) (c :: rest) := by
  intro segments done
  rw [readFrom] at done
  split at done
  · rename_i isPoint
    obtain ⟨later, read, rfl⟩ := map_eq_ok done
    obtain ⟨parts, seen, rfl⟩ := below .point trivial _ read
    refine ⟨.name _ named :: parts, ?_, rfl⟩
    rw [written_name, ← seen, isPoint, String.toList_ofList]
    rfl
  · split at done
    · rename_i isBracket
      obtain ⟨later, read, rfl⟩ := map_eq_ok done
      obtain ⟨parts, seen, rfl⟩ := below (.bracket []) (List.forall_mem_nil _) _ read
      refine ⟨.name _ named :: parts, ?_, rfl⟩
      rw [written_name, ← seen, isBracket, String.toList_ofList]
      rfl
    · split at done
      · cases done
      · have ordinary : isOrdinary c = true := by simp_all [isOrdinary]
        obtain ⟨parts, seen, rfl⟩ := below (.name (c :: read)) (isName_concat named ordinary) _ done
        refine ⟨parts, ?_, rfl⟩
        rw [← seen]
        simp [Mark.seen]

private theorem readsParts_point : ReadsParts .point (c :: rest) := by
  intro segments done
  rw [readFrom] at done
  split at done
  · cases done
  · split at done
    · rename_i isBracket
      obtain ⟨parts, seen, rfl⟩ := below (.bracket []) (List.forall_mem_nil _) _ done
      obtain ⟨pointed, also, same⟩ := exists_pointed seen
      exact ⟨pointed, isBracket ▸ also, same⟩
    · split at done
      · cases done
      · have named : isName (String.ofList [c].reverse) = true := by simp_all [isName, isOrdinary]
        exact below (.name [c]) named _ done

private theorem readsParts_bracket {digits : List Char} (decimal : ∀ c ∈ digits, c.isDigit = true) :
    ReadsParts (.bracket digits) (c :: rest) := by
  intro segments done
  rw [readFrom] at done
  split at done
  · rename_i isBracket
    split at done
    · rename_i position isIndex
      obtain ⟨later, read, rfl⟩ := map_eq_ok done
      obtain ⟨parts, seen, rfl⟩ := below .index trivial _ read
      have denotes := (indexOfDigits?_eq_some_iff fun c member =>
        decimal c (List.mem_reverse.mp member)).mp isIndex
      refine ⟨.index false _ position denotes :: parts, ?_, rfl⟩
      rw [written_index, ← seen, isBracket]
      rfl
    · cases done
  · split at done
    · rename_i isDigit
      obtain ⟨parts, seen, rfl⟩ :=
        below (.bracket (c :: digits)) (List.forall_mem_cons.mpr ⟨isDigit, decimal⟩) _ done
      refine ⟨parts, ?_, rfl⟩
      rw [← seen]
      simp [Mark.seen]
    · cases done

private theorem readsParts_index : ReadsParts .index (c :: rest) := by
  intro segments done
  rw [readFrom] at done
  split at done
  · rename_i isPoint
    exact isPoint ▸ below .point trivial _ done
  · split at done
    · rename_i isBracket
      exact isBracket ▸ below (.bracket []) (List.forall_mem_nil _) _ done
    · cases done

end Steps

theorem readsParts (characters : List Char) :
    ∀ mark : Mark, mark.Sound → ReadsParts mark characters := by
  induction characters with
  | nil =>
      intro mark sound segments done
      cases mark with
      | start => cases sound
      | name read =>
          cases done
          refine ⟨[.name _ sound], ?_, rfl⟩
          simp [Mark.seen, written, Part.characters]
      | point => cases done
      | bracket digits => cases done
      | index =>
          cases done
          exact ⟨[], rfl, rfl⟩
  | cons c rest ih =>
      intro mark sound
      cases mark with
      | start => cases sound
      | name read => exact readsParts_name ih sound
      | point => exact readsParts_point ih
      | bracket digits => exact readsParts_bracket ih sound
      | index => exact readsParts_index ih

/-- A text is read as a path exactly when it is not blank and consists of a name and of parts that
stand for the segments of the path. -/
theorem parse_eq_ok_iff {raw : String} {path : FieldPath} :
    parse raw = .ok path ↔ Text.isAllBlank raw = false ∧ ∃ first parts, isName first = true ∧
      raw.toList = first.toList ++ written parts ∧
      path.segments = .key first :: parts.map Part.segment := by
  rw [parse]
  constructor
  · intro done
    split at done
    · cases done
    · rename_i filled
      refine ⟨eq_false_of_ne_true filled, ?_⟩
      cases characters : raw.toList with
      | nil =>
          rw [characters] at done
          cases done
      | cons c rest =>
          -- Behind its first character the text is read as it would be behind a point.
          have behind : readFrom .point (c :: rest) = .ok path.segments ∧ c ≠ '[' := by
            rw [characters, readFrom] at done
            rw [readFrom]
            repeat' split at done
            all_goals first | cases done | skip
            rename_i noPoint noOpening noClosing
            rw [if_neg noPoint, if_neg noOpening, if_neg noClosing]
            cases read : readFrom (.name [c]) rest with
            | error fault =>
                rw [read] at done
                cases done
            | ok segments =>
                rw [read] at done
                cases done
                exact ⟨rfl, noOpening⟩
          obtain ⟨parts, seen, segments⟩ := readsParts _ .point trivial _ behind.1
          rcases parts with _ | ⟨⟨text, named⟩ | ⟨_ | _, digits, position, denotes⟩, parts⟩
          · cases seen
          · exact ⟨text, parts, named, List.tail_eq_of_cons_eq seen, segments⟩
          · cases List.head_eq_of_cons_eq seen
          · exact absurd (List.head_eq_of_cons_eq (List.tail_eq_of_cons_eq seen)) behind.2
  · rintro ⟨filled, first, parts, named, characters, segments⟩
    rw [filled, if_neg Bool.false_ne_true, characters, (readFrom_first named _).2,
      (readFrom_written parts _).1, List.reverse_reverse, String.ofList_toList, ← segments]
    rfl

/-! ### Points before brackets -/

private theorem infix_append_iff {front rest : List Char} (noPoint : '.' ∉ front) :
    ['.', '['] <:+: front ++ rest ↔ ['.', '['] <:+: rest := by
  induction front with
  | nil => rfl
  | cons c front ih =>
      rw [List.mem_cons, not_or] at noPoint
      have different : ¬['.', '['] <+: c :: (front ++ rest) := by
        intro start
        exact noPoint.1 (List.cons_prefix_cons.mp start).1
      rw [List.cons_append, List.infix_cons_iff, or_iff_right different]
      exact ih noPoint.2

private theorem not_mem_name {text : String} (named : isName text = true) : '.' ∉ text.toList := by
  intro member
  exact (ordinary_ne (ordinary_of_mem named _ member)).1 rfl

private theorem not_infix_written {parts : List Part}
    (unpointed : ∀ part ∈ parts, part.isPointed = false) : ¬['.', '['] <:+: written parts := by
  induction parts with
  | nil => simp [written]
  | cons part parts ih =>
      have below := ih fun part member => unpointed part (List.mem_cons_of_mem _ member)
      rcases part with ⟨text, named⟩ | ⟨_ | _, digits, position, denotes⟩
      · rw [written_name, List.infix_cons_iff, infix_append_iff (not_mem_name named)]
        rintro (start | later)
        · obtain ⟨c, rest, split⟩ := exists_cons named
          have ordinary := ordinary_of_mem named c (split ▸ List.mem_cons_self)
          rw [split] at start
          have bracket := (List.cons_prefix_cons.mp (List.cons_prefix_cons.mp start).2).1
          exact (ordinary_ne ordinary).2.1 bracket.symm
        · exact below later
      · have noPoint : '.' ∉ '[' :: (digits ++ [']']) := by
          intro member
          have inside : '.' ∈ digits := by simpa using member
          exact absurd (denotes.decimal _ inside) (by decide)
        have split : written (.index false digits position denotes :: parts) =
            '[' :: (digits ++ [']']) ++ written parts := rfl
        rw [split, infix_append_iff noPoint]
        exact below
      · cases unpointed _ List.mem_cons_self

private theorem infix_written {parts : List Part} {part : Part} (member : part ∈ parts)
    (pointed : part.isPointed = true) : ['.', '['] <:+: written parts := by
  obtain ⟨front, back, rfl⟩ := List.append_of_mem member
  rcases part with ⟨text, named⟩ | ⟨_ | _, digits, position, denotes⟩
  · cases pointed
  · cases pointed
  · refine ⟨written front, digits ++ ']' :: written back, ?_⟩
    have split : written (front ++ .index true digits position denotes :: back) =
        written front ++ written (.index true digits position denotes :: back) :=
      List.flatMap_append
    rw [split, written_pointed, List.append_assoc]
    rfl

/-- The texts that are read: a name and any number of parts. A point is followed by a name in each
of these texts exactly if it is followed by a bracket nowhere. -/
theorem parse_accepts_iff (raw : String) :
    ((∃ path, parse raw = .ok path) ↔ Text.isAllBlank raw = false ∧ ∃ first parts,
        isName first = true ∧ raw.toList = first.toList ++ written parts) ∧
      ((∃ path, parse raw = .ok path) ∧ ¬['.', '['] <:+: raw.toList ↔
        Text.isAllBlank raw = false ∧ ∃ first parts, isName first = true ∧
          (∀ part ∈ parts, part.isPointed = false) ∧
          raw.toList = first.toList ++ written parts) := by
  have accepted : (∃ path, parse raw = .ok path) ↔ Text.isAllBlank raw = false ∧
      ∃ first parts, isName first = true ∧ raw.toList = first.toList ++ written parts := by
    constructor
    · rintro ⟨path, done⟩
      obtain ⟨filled, first, parts, named, characters, _⟩ := parse_eq_ok_iff.mp done
      exact ⟨filled, first, parts, named, characters⟩
    · rintro ⟨filled, first, parts, named, characters⟩
      exact ⟨_, parse_eq_ok_iff.mpr ⟨filled, first, parts, named, characters, rfl⟩⟩
  refine ⟨accepted, ?_⟩
  rw [accepted]
  constructor
  · rintro ⟨⟨filled, first, parts, named, characters⟩, apart⟩
    refine ⟨filled, first, parts, named, fun part member => ?_, characters⟩
    rw [characters, infix_append_iff (not_mem_name named)] at apart
    exact eq_false_of_ne_true fun pointed => apart (infix_written member pointed)
  · rintro ⟨filled, first, parts, named, unpointed, characters⟩
    refine ⟨⟨filled, first, parts, named, characters⟩, ?_⟩
    rw [characters, infix_append_iff (not_mem_name named)]
    exact not_infix_written unpointed

example : parse "a.[0]" = .ok ⟨[.key "a", .index 0]⟩ := by decide +kernel

/-! ### Reading and writing -/

/-- A name comes first, all names can be written and all indices can be read. -/
structure IsWellFormed (path : FieldPath) : Prop where
  writable : IsWritable path.segments
  inRange : path.InRange

structure IsReadable (path : FieldPath) : Prop extends path.IsWellFormed where
  filled : Text.isAllBlank path.text = false

theorem IsReadable.parse_text {path : FieldPath} (readable : path.IsReadable) :
    parse path.text = .ok path :=
  (parse_text_eq_ok_iff_inRange readable.writable readable.filled).mpr readable.inRange

private theorem writable_segment (part : Part) : part.segment.isWritable = true := by
  cases part with
  | name text named => exact named
  | index pointed digits position denotes => rfl

private theorem filled_of_later (name : String) (segment : Segment) (later : List Segment) :
    Text.isAllBlank (text ⟨.key name :: segment :: later⟩) = false := by
  rw [Text.isAllBlank, text, String.toList_ofList, List.all_eq_false]
  cases segment with
  | key other => exact ⟨'.', by simp [characters, laterSegment], by decide⟩
  | index position => exact ⟨'[', by simp [characters, laterSegment], by decide⟩

theorem isReadable_of_parse {raw : String} {path : FieldPath} (done : parse raw = .ok path) :
    path.IsReadable := by
  obtain ⟨filled, first, parts, named, characters, segments⟩ := parse_eq_ok_iff.mp done
  refine ⟨⟨?_, ?_⟩, ?_⟩
  · rw [segments]
    refine ⟨named, fun segment member => ?_⟩
    obtain ⟨part, _, rfl⟩ := List.mem_map.mp member
    exact writable_segment part
  · intro position member
    rw [segments, List.mem_cons] at member
    rcases member with impossible | member
    · cases impossible
    · obtain ⟨part, _, same⟩ := List.mem_map.mp member
      cases part with
      | name text named => cases same
      | index pointed digits other denotes =>
          cases same
          exact denotes.inRange
  · obtain ⟨list⟩ := path
    obtain rfl : list = .key first :: parts.map Part.segment := segments
    cases parts with
    | nil =>
        have same : text ⟨[.key first]⟩ = raw := by
          rw [← String.toList_inj, characters, text, String.toList_ofList]
          rfl
        rw [List.map_nil, same, filled]
    | cons part parts => exact filled_of_later first part.segment _

theorem exists_key_of_parse {raw : String} {path : FieldPath} (done : parse raw = .ok path) :
    ∃ name later, path.segments = .key name :: later := by
  obtain ⟨_, first, _, _, _, segments⟩ := parse_eq_ok_iff.mp done
  exact ⟨first, _, segments⟩

/-- The text of a path of plain names that was read is read as that path. -/
theorem parse_text_of_parse {raw : String} {path : FieldPath} (plain : IsPlain path.segments)
    (done : parse raw = .ok path) : parse path.text = .ok path :=
  (parse_text_eq_ok_iff plain).mpr (isReadable_of_parse done).inRange

/-- Reading the text of a path gives the path back, and only such paths are read. So the texts tell
these paths apart, and such a text is the one that is written for what is read of it. -/
theorem reading_inverts_writing :
    (∀ path : FieldPath, path.IsReadable → parse path.text = .ok path) ∧
      (∀ raw path, parse raw = .ok path → path.IsReadable) ∧
      (∀ first second : FieldPath, first.IsReadable → second.IsReadable →
        first.text = second.text → first = second) ∧
      ∀ raw, (∃ path : FieldPath, path.IsReadable ∧ path.text = raw) →
        (parse raw).map text = .ok raw := by
  refine ⟨fun path readable => readable.parse_text, fun raw path => isReadable_of_parse, ?_, ?_⟩
  · intro first second readable other same
    exact text_injective readable.writable other.writable same
  · rintro raw ⟨path, readable, rfl⟩
    rw [readable.parse_text]
    rfl

def contactEmail : FieldPath := ⟨[.key "contacts", .index 2, .key "email"]⟩

/-- The index may be read from another numeral than the one that is written for it. -/
theorem contactEmail_read : contactEmail.IsReadable ∧
    parse "contacts[002].email" = .ok contactEmail ∧
    parse contactEmail.text = .ok contactEmail ∧
    (parse "contacts[2].email").map text = .ok "contacts[2].email" := by
  have isRead : parse "contacts[002].email" = .ok contactEmail := by decide +kernel
  have readable := reading_inverts_writing.2.1 _ _ isRead
  have written : contactEmail.text = "contacts[2].email" := by decide +kernel
  exact ⟨readable, isRead, reading_inverts_writing.1 _ readable,
    reading_inverts_writing.2.2.2 _ ⟨contactEmail, readable, written⟩⟩

end DeclarativeForm.FieldPath
