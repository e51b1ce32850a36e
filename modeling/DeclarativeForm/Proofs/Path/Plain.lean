import DeclarativeForm.Proofs.Path.Numeral

/-!
Paths and their texts. A name can be written in a path when it is not empty and holds neither points
nor brackets; it is plain when it is not blank either. The text of a path that starts with a name
shows the path and every path it goes on after. It is read back as that path, unless it is blank or
an index in it is out of range.
-/

set_option autoImplicit false

namespace DeclarativeForm

def isOrdinary (c : Char) : Bool := c ≠ '.' && c ≠ '[' && c ≠ ']'

/-- A name that can be written in a path: it is not empty and holds neither points nor brackets. -/
def isName (name : String) : Bool := name ≠ "" && name.toList.all isOrdinary

def isPlainName (name : String) : Bool := !Text.isAllBlank name && name.toList.all isOrdinary

def Segment.isWritable : Segment → Bool
  | .key name => isName name
  | .index _ => true

def Segment.isPlain : Segment → Bool
  | .key name => isPlainName name
  | .index _ => true

def Segment.isReadable : Segment → Bool
  | .key _ => true
  | .index position => decide (position < FieldPath.indexLimit)

namespace FieldPath

def IsWritable : List Segment → Prop
  | .key name :: later => isName name = true ∧ ∀ segment ∈ later, segment.isWritable = true
  | _ => False

instance : (segments : List Segment) → Decidable (IsWritable segments)
  | .key _ :: _ => inferInstanceAs (Decidable (_ ∧ _))
  | [] | .index _ :: _ => .isFalse id

def IsPlain : List Segment → Prop
  | .key name :: later => isPlainName name = true ∧ ∀ segment ∈ later, segment.isPlain = true
  | _ => False

/-- The indices of a path can be read, as those of all arrays that fit in memory can. -/
def InRange (path : FieldPath) : Prop :=
  ∀ position, .index position ∈ path.segments → position < indexLimit

instance (path : FieldPath) : Decidable path.InRange :=
  decidable_of_iff (∀ segment ∈ path.segments, segment.isReadable = true) <| by
    constructor
    · intro readable position member
      exact of_decide_eq_true (readable _ member)
    · intro inRange segment member
      cases segment with
      | key name => rfl
      | index position => exact decide_eq_true (inRange position member)

theorem IsPlain.all {segments : List Segment} (plain : IsPlain segments) :
    ∀ segment ∈ segments, segment.isPlain = true := by
  cases segments with
  | nil => cases plain
  | cons segment rest =>
      cases segment with
      | key name => exact List.forall_mem_cons.mpr plain
      | index position => cases plain

theorem ordinary_ne {c : Char} (ordinary : isOrdinary c = true) : c ≠ '.' ∧ c ≠ '[' ∧ c ≠ ']' := by
  simpa [isOrdinary, and_assoc] using ordinary

theorem ordinary_of_mem {name : String} (named : isName name = true) :
    ∀ c ∈ name.toList, isOrdinary c = true := by
  intro c member
  simp only [isName, Bool.and_eq_true] at named
  exact List.all_eq_true.mp named.2 c member

theorem exists_cons {name : String} (named : isName name = true) :
    ∃ c rest, name.toList = c :: rest := by
  simp only [isName, Bool.and_eq_true, decide_eq_true_eq] at named
  exact List.exists_cons_of_ne_nil (mt String.toList_eq_nil_iff.mp named.1)

theorem exists_not_blank {name : String} (plain : isPlainName name = true) :
    ∃ c ∈ name.toList, Text.isBlank c = false := by
  simp only [isPlainName, Text.isAllBlank, Bool.and_eq_true, Bool.not_eq_true',
    List.all_eq_false] at plain
  obtain ⟨c, member, filled⟩ := plain.1
  exact ⟨c, member, eq_false_of_ne_true filled⟩

theorem isName_of_isPlainName {name : String} (plain : isPlainName name = true) :
    isName name = true := by
  obtain ⟨c, member, _⟩ := exists_not_blank plain
  have filled : name ≠ "" := by
    rintro rfl
    cases member
  simp only [isPlainName, Bool.and_eq_true] at plain
  simp only [isName, Bool.and_eq_true, decide_eq_true_eq]
  exact ⟨filled, plain.2⟩

theorem IsPlain.isWritable {segments : List Segment} (plain : IsPlain segments) :
    IsWritable segments := by
  cases segments with
  | nil => cases plain
  | cons segment rest =>
      cases segment with
      | index position => cases plain
      | key name =>
          refine ⟨isName_of_isPlainName plain.1, fun segment member => ?_⟩
          have isPlain := plain.2 segment member
          cases segment with
          | key name => exact isName_of_isPlainName isPlain
          | index position => rfl

/-! ### Texts tell paths apart -/

/-- What follows a name starts with no ordinary character. -/
theorem takeWhile_later_append (segments : List Segment) {rest : List Char}
    (ends : rest.takeWhile isOrdinary = []) :
    (segments.flatMap laterSegment ++ rest).takeWhile isOrdinary = [] := by
  cases segments with
  | nil => exact ends
  | cons segment later => cases segment <;> rfl

theorem takeWhile_later (segments : List Segment) :
    (segments.flatMap laterSegment).takeWhile isOrdinary = [] := by
  have ends := takeWhile_later_append segments (List.takeWhile_nil (p := isOrdinary))
  rwa [List.append_nil] at ends

theorem name_append_injective {first second : String} {one two : List Char}
    (named : isName first = true) (other : isName second = true)
    (ends : one.takeWhile isOrdinary = []) (otherEnds : two.takeWhile isOrdinary = [])
    (same : first.toList ++ one = second.toList ++ two) : first = second ∧ one = two := by
  have names := congrArg (List.takeWhile isOrdinary) same
  rw [List.takeWhile_append_of_pos (ordinary_of_mem named),
    List.takeWhile_append_of_pos (ordinary_of_mem other), ends, otherEnds, List.append_nil,
    List.append_nil] at names
  rw [names] at same
  exact ⟨String.toList_inj.mp names, List.append_cancel_left same⟩

theorem index_append_injective {first second : Nat} {one two : List Char}
    (same : numeral first ++ ']' :: one = numeral second ++ ']' :: two) :
    first = second ∧ one = two := by
  have closing (position : Nat) (rest : List Char) :
      (numeral position ++ ']' :: rest).takeWhile Char.isDigit = numeral position ∧
        (numeral position ++ ']' :: rest).dropWhile Char.isDigit = ']' :: rest := by
    rw [List.takeWhile_append_of_pos fun _ => isDigit_of_mem_numeral,
      List.dropWhile_append_of_pos fun _ => isDigit_of_mem_numeral]
    exact ⟨List.append_nil _, rfl⟩
  have digits := congrArg (List.takeWhile Char.isDigit) same
  have rests := congrArg (List.dropWhile Char.isDigit) same
  rw [(closing first one).1, (closing second two).1] at digits
  rw [(closing first one).2, (closing second two).2] at rests
  exact ⟨numeral_injective digits, List.tail_eq_of_cons_eq rests⟩

theorem laterSegment_index (position : Nat) (rest : List Char) :
    laterSegment (.index position) ++ rest = '[' :: (numeral position ++ ']' :: rest) := by
  simp [laterSegment, numeral]

private theorem exists_append_of_later {front whole : List Segment}
    (writable : ∀ segment ∈ front, segment.isWritable = true)
    (isWhole : ∀ segment ∈ whole, segment.isWritable = true) {rest : List Char}
    (ends : rest.takeWhile isOrdinary = [])
    (same : whole.flatMap laterSegment = front.flatMap laterSegment ++ rest) :
    ∃ later, whole = front ++ later ∧ later.flatMap laterSegment = rest := by
  induction front generalizing whole with
  | nil => exact ⟨whole, rfl, same⟩
  | cons segment front ih =>
      cases whole with
      | nil => cases segment <;> cases same
      | cons other whole =>
          have below (tails : whole.flatMap laterSegment = front.flatMap laterSegment ++ rest) :
              ∃ later, whole = front ++ later ∧ later.flatMap laterSegment = rest :=
            ih (fun segment member => writable segment (List.mem_cons_of_mem _ member))
              (fun segment member => isWhole segment (List.mem_cons_of_mem _ member)) tails
          have here := writable segment List.mem_cons_self
          have there := isWhole other List.mem_cons_self
          rw [List.flatMap_cons, List.flatMap_cons, List.append_assoc] at same
          cases segment with
          | key name =>
              cases other with
              | key otherName =>
                  obtain ⟨names, tails⟩ := name_append_injective there here (takeWhile_later _)
                    (takeWhile_later_append _ ends) (List.tail_eq_of_cons_eq same)
                  obtain ⟨later, rfl, written⟩ := below tails
                  exact ⟨later, by rw [names, List.cons_append], written⟩
              | index position => cases List.head_eq_of_cons_eq same
          | index position =>
              cases other with
              | key otherName => cases List.head_eq_of_cons_eq same
              | index otherPosition =>
                  rw [laterSegment_index, laterSegment_index] at same
                  obtain ⟨positions, tails⟩ :=
                    index_append_injective (List.tail_eq_of_cons_eq same)
                  obtain ⟨later, rfl, written⟩ := below tails
                  exact ⟨later, by rw [positions, List.cons_append], written⟩

/-- A text that goes on after that of a path, and not in the middle of a name, is the text of a path
that goes on after it. -/
theorem IsWritable.exists_append {front whole : List Segment} (writable : IsWritable front)
    (isWhole : IsWritable whole) {rest : List Char} (ends : rest.takeWhile isOrdinary = [])
    (same : characters whole = characters front ++ rest) :
    ∃ later, whole = front ++ later ∧ later.flatMap laterSegment = rest := by
  rcases front with _ | ⟨name | position, front⟩
  · cases writable
  · rcases whole with _ | ⟨otherName | otherPosition, whole⟩
    · cases isWhole
    · rw [characters, characters, firstSegment, firstSegment, List.append_assoc] at same
      obtain ⟨names, tails⟩ := name_append_injective isWhole.1 writable.1 (takeWhile_later _)
        (takeWhile_later_append _ ends) same
      obtain ⟨later, rfl, written⟩ := exists_append_of_later writable.2 isWhole.2 ends tails
      exact ⟨later, by rw [names, List.cons_append], written⟩
    · cases isWhole
  · cases writable

theorem text_injective {first second : FieldPath} (writable : IsWritable first.segments)
    (other : IsWritable second.segments) (same : first.text = second.text) : first = second := by
  obtain ⟨one⟩ := first
  obtain ⟨two⟩ := second
  have whole : characters one = characters two ++ [] := by
    rw [List.append_nil]
    exact String.ofList_injective same
  obtain ⟨later, rfl, nothing⟩ := other.exists_append writable List.takeWhile_nil whole
  rcases later with _ | ⟨name | position, later⟩
  · rw [List.append_nil]
  · cases nothing
  · cases nothing

/-! ### Reading a text back -/

/-- The segments as they are read back: an index out of range is not read. -/
def readBack : List Segment → Except PathFault (List Segment)
  | [] => .ok []
  | .key name :: rest => (readBack rest).map (.key name :: ·)
  | .index position :: rest =>
    if indexLimit ≤ position then .error .indexNotNumeral
    else (readBack rest).map (.index position :: ·)

theorem readBack_eq {segments read : List Segment} (done : readBack segments = .ok read) :
    read = segments := by
  induction segments generalizing read with
  | nil =>
      cases done
      rfl
  | cons segment rest ih =>
      cases later : readBack rest with
      | error fault =>
          cases segment with
          | key name =>
              rw [readBack, later] at done
              cases done
          | index position =>
              rw [readBack, later] at done
              split at done <;> cases done
      | ok tail =>
          cases segment with
          | key name =>
              rw [readBack, later] at done
              cases done
              rw [ih later]
          | index position =>
              rw [readBack, later] at done
              split at done
              · cases done
              · cases done
                rw [ih later]

private theorem readFrom_name {characters : List Char}
    (ordinary : ∀ c ∈ characters, isOrdinary c = true) (read rest : List Char) :
    readFrom (.name read) (characters ++ rest) =
      readFrom (.name (characters.reverse ++ read)) rest := by
  induction characters generalizing read with
  | nil => rfl
  | cons c later ih =>
      obtain ⟨noPoint, noOpening, noClosing⟩ := ordinary_ne (ordinary c List.mem_cons_self)
      have step := ih (fun c member => ordinary c (List.mem_cons_of_mem _ member)) (c :: read)
      rw [List.cons_append, readFrom, if_neg noPoint, if_neg noOpening, if_neg noClosing, step]
      simp

theorem readFrom_digits {digits : List Char}
    (decimal : ∀ c ∈ digits, c.isDigit = true) (read rest : List Char) :
    readFrom (.bracket read) (digits ++ rest) =
      readFrom (.bracket (digits.reverse ++ read)) rest := by
  induction digits generalizing read with
  | nil => rfl
  | cons c later ih =>
      have digit := decimal c List.mem_cons_self
      have noClosing : c ≠ ']' := by
        rintro rfl
        cases digit
      have step := ih (fun c member => decimal c (List.mem_cons_of_mem _ member)) (c :: read)
      rw [List.cons_append, readFrom, if_neg noClosing, if_pos digit, step]
      simp

theorem readFrom_first {name : String} (named : isName name = true)
    (rest : List Char) :
    readFrom .point (name.toList ++ rest) = readFrom (.name name.toList.reverse) rest ∧
      readFrom .start (name.toList ++ rest) = readFrom (.name name.toList.reverse) rest := by
  obtain ⟨c, later, split⟩ := exists_cons named
  have ordinary := ordinary_of_mem named
  rw [split] at ordinary ⊢
  obtain ⟨noPoint, noOpening, noClosing⟩ := ordinary_ne (ordinary c List.mem_cons_self)
  have scan := readFrom_name (fun c member => ordinary c (List.mem_cons_of_mem _ member)) [c] rest
  constructor
  · rw [List.cons_append, readFrom, if_neg noPoint, if_neg noOpening, if_neg noClosing, scan,
      List.reverse_cons]
  · rw [List.cons_append, readFrom, if_neg noPoint, if_neg noOpening, if_neg noClosing, scan,
      List.reverse_cons]

private theorem readFrom_bracket (position : Nat) (rest : List Char) :
    readFrom (.bracket []) (numeral position ++ ']' :: rest) =
      if indexLimit ≤ position then .error .indexNotNumeral
      else (readFrom .index rest).map (.index position :: ·) := by
  rw [readFrom_digits (fun _ => isDigit_of_mem_numeral), readFrom, if_pos rfl, List.append_nil,
    List.reverse_reverse, indexOfDigits?_numeral]
  by_cases large : indexLimit ≤ position
  · rw [if_pos large, if_pos large]
  · rw [if_neg large, if_neg large]

private theorem readFrom_later {segments : List Segment}
    (writable : ∀ segment ∈ segments, segment.isWritable = true) (read : List Char) :
    readFrom (.name read) (segments.flatMap laterSegment) =
        (readBack segments).map (.key (String.ofList read.reverse) :: ·) ∧
      readFrom .index (segments.flatMap laterSegment) = readBack segments := by
  induction segments generalizing read with
  | nil => exact ⟨rfl, rfl⟩
  | cons segment rest ih =>
      have later := ih fun segment member => writable segment (List.mem_cons_of_mem _ member)
      have here := writable segment List.mem_cons_self
      cases segment with
      | key name =>
          have named : readFrom .point (name.toList ++ rest.flatMap laterSegment) =
              readBack (.key name :: rest) := by
            rw [(readFrom_first here _).1, (later _).1, readBack, List.reverse_reverse,
              String.ofList_toList]
          rw [List.flatMap_cons]
          change readFrom (.name read) ('.' :: (name.toList ++ _)) = _ ∧
            readFrom .index ('.' :: (name.toList ++ _)) = _
          constructor
          · rw [readFrom, if_pos rfl, named]
          · rw [readFrom, if_pos rfl, named]
      | index position =>
          have numbered : readFrom (.bracket [])
              (numeral position ++ ']' :: rest.flatMap laterSegment) =
              readBack (.index position :: rest) := by
            rw [readFrom_bracket, (later []).2, readBack]
          rw [List.flatMap_cons, laterSegment_index]
          constructor
          · rw [readFrom, if_neg (by decide), if_pos rfl, numbered]
          · rw [readFrom, if_neg (by decide), if_pos rfl, numbered]

theorem parse_text {path : FieldPath} (writable : IsWritable path.segments)
    (filled : Text.isAllBlank path.text = false) :
    parse path.text = (readBack path.segments).map FieldPath.mk := by
  rw [parse, filled, if_neg Bool.false_ne_true]
  obtain ⟨segments⟩ := path
  cases segments with
  | nil => cases writable
  | cons segment rest =>
      cases segment with
      | index position => cases writable
      | key name =>
          rw [text, characters, firstSegment, String.toList_ofList,
            (readFrom_first writable.1 _).2, (readFrom_later writable.2 _).1, List.reverse_reverse,
            String.ofList_toList, readBack]

theorem IsPlain.filled {path : FieldPath} (plain : IsPlain path.segments) :
    Text.isAllBlank path.text = false := by
  obtain ⟨segments⟩ := path
  cases segments with
  | nil => cases plain
  | cons segment rest =>
      cases segment with
      | index position => cases plain
      | key name =>
          obtain ⟨c, member, filled⟩ := exists_not_blank plain.1
          rw [text, Text.isAllBlank, String.toList_ofList, List.all_eq_false]
          refine ⟨c, List.mem_append_left _ member, ?_⟩
          rw [filled]
          exact Bool.false_ne_true

/-- The text of a path is read as that path or not at all. -/
theorem eq_of_parse_text {path read : FieldPath} (writable : IsWritable path.segments)
    (done : parse path.text = .ok read) : read = path := by
  have filled : Text.isAllBlank path.text = false := by
    cases blank : Text.isAllBlank path.text with
    | false => rfl
    | true =>
        rw [parse, if_pos blank] at done
        cases done
  rw [parse_text writable filled] at done
  cases back : readBack path.segments with
  | error fault =>
      rw [back] at done
      cases done
  | ok segments =>
      rw [back] at done
      cases done
      rw [readBack_eq back]

theorem readBack_eq_ok_iff {path : FieldPath} :
    readBack path.segments = .ok path.segments ↔ path.InRange := by
  obtain ⟨segments⟩ := path
  rw [InRange]
  induction segments with
  | nil => simp [readBack]
  | cons segment rest ih =>
      have later : (readBack rest).map (segment :: ·) = .ok (segment :: rest) ↔
          readBack rest = .ok rest := by
        cases readBack rest <;> simp [Except.map]
      cases segment with
      | key name => simp [readBack, later, ih]
      | index position =>
          by_cases large : indexLimit ≤ position
          · have missed : ¬position < indexLimit := Nat.not_lt.mpr large
            simp [readBack, large, missed]
          · have small : position < indexLimit := Nat.not_le.mp large
            simp [readBack, large, small, later, ih]

theorem parse_text_eq_ok_iff_inRange {path : FieldPath} (writable : IsWritable path.segments)
    (filled : Text.isAllBlank path.text = false) :
    parse path.text = .ok path ↔ path.InRange := by
  rw [parse_text writable filled, ← readBack_eq_ok_iff]
  obtain ⟨segments⟩ := path
  cases readBack segments with
  | error fault => simp [Except.map]
  | ok read => simp [Except.map]

/-- The text of a path of plain names is read as that path exactly when its indices are in range. -/
theorem parse_text_eq_ok_iff {path : FieldPath} (plain : IsPlain path.segments) :
    parse path.text = .ok path ↔ path.InRange :=
  parse_text_eq_ok_iff_inRange plain.isWritable plain.filled

theorem parse_of_isPlainName {name : String} (plain : isPlainName name = true) :
    parse name = .ok (.key name) := by
  have written : (FieldPath.key name).text = name := by
    rw [text, key, characters, firstSegment, List.flatMap_nil, List.append_nil,
      String.ofList_toList]
  have single : IsPlain (FieldPath.key name).segments := ⟨plain, fun _ member => nomatch member⟩
  have done := parse_text single.isWritable single.filled
  rw [written] at done
  exact done

end FieldPath

end DeclarativeForm
