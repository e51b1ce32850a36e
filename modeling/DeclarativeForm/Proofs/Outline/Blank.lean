import DeclarativeForm.Outline.Render

/-!
Outlines that differ in one text. What they have in common is a list of lines, some of them with a
blank at the end, and either outline comes from filling a text into the blanks. If there are any
blanks, the outlines are the same text only if the same was filled in.
-/

set_option autoImplicit false

namespace DeclarativeForm.Outline

structure BlankLine where
  start : String
  isOpen : Bool

def BlankLine.fill (text : String) (line : BlankLine) : String :=
  if line.isOpen then line.start ++ text else line.start

/-- Two lists of lines come from the same lines with blanks, filled with one text and with another;
`occurs` tells whether there are any blanks. -/
def DifferIn (first second : String) (occurs : Prop) (one two : List String) : Prop :=
  ∃ lines : List BlankLine, one = lines.map (BlankLine.fill first) ∧
    two = lines.map (BlankLine.fill second) ∧ (occurs ↔ ∃ line ∈ lines, line.isOpen = true)

variable {first second : String}

namespace DifferIn

variable {occurs other : Prop} {one two three four : List String}

theorem congr (differ : DifferIn first second occurs one two) (same : other ↔ occurs) :
    DifferIn first second other one two := by
  obtain ⟨lines, left, right, blanks⟩ := differ
  exact ⟨lines, left, right, same.trans blanks⟩

theorem refl (lines : List String) : DifferIn first second False lines lines := by
  refine ⟨lines.map fun line => ⟨line, false⟩, ?_, ?_, ?_⟩
  · simp [BlankLine.fill, Function.comp_def]
  · simp [BlankLine.fill, Function.comp_def]
  · simp

theorem ending (start : String) :
    DifferIn first second True [start ++ first] [start ++ second] :=
  ⟨[⟨start, true⟩], rfl, rfl, by simp⟩

theorem append (front : DifferIn first second occurs one two)
    (back : DifferIn first second other three four) :
    DifferIn first second (occurs ∨ other) (one ++ three) (two ++ four) := by
  obtain ⟨lines, rfl, rfl, blanks⟩ := front
  obtain ⟨rest, rfl, rfl, later⟩ := back
  refine ⟨lines ++ rest, List.map_append.symm, List.map_append.symm, ?_⟩
  rw [blanks, later]
  simp only [List.mem_append, or_and_right, exists_or]

theorem append_same (front : DifferIn first second occurs one two) (lines : List String) :
    DifferIn first second occurs (one ++ lines) (two ++ lines) :=
  (front.append (refl lines)).congr (or_iff_left id).symm

theorem same_append (lines : List String) (back : DifferIn first second occurs one two) :
    DifferIn first second occurs (lines ++ one) (lines ++ two) :=
  ((refl lines).append back).congr (or_iff_right id).symm

end DifferIn

/-! ### Joined lines -/

private theorem length_fill (text : String) (line : BlankLine) :
    (line.fill text).length = line.start.length + (if line.isOpen then text.length else 0) := by
  rw [BlankLine.fill]
  split
  · exact String.length_append _ _
  · rfl

/-- Each blank makes the text longer by what is filled in. -/
private theorem exists_length_joined (separator : String) (lines : List BlankLine) :
    ∃ length, ∀ text, (separator.intercalate (lines.map (BlankLine.fill text))).length =
      length + lines.countP BlankLine.isOpen * text.length := by
  induction lines with
  | nil => exact ⟨0, fun text => by simp⟩
  | cons line rest ih =>
      obtain ⟨length, long⟩ := ih
      cases rest with
      | nil =>
          refine ⟨line.start.length, fun text => ?_⟩
          rw [List.map_cons, List.map_nil, String.intercalate_singleton, length_fill,
            List.countP_singleton]
          split <;> simp
      | cons next rest =>
          refine ⟨line.start.length + separator.length + length, fun text => ?_⟩
          have later := long text
          have blanks : (line :: next :: rest).countP BlankLine.isOpen =
              (next :: rest).countP BlankLine.isOpen + if line.isOpen then 1 else 0 :=
            List.countP_cons
          rw [List.map_cons] at later
          rw [List.map_cons, List.map_cons, String.intercalate_cons_cons, String.length_append,
            String.length_append, later, length_fill, blanks, Nat.add_mul]
          split <;> omega

private theorem append_inj {one two later other : String} (sameLength : one.length = two.length)
    (equal : one ++ later = two ++ other) : one = two ∧ later = other := by
  have lists := congrArg String.toList equal
  rw [String.toList_append, String.toList_append] at lists
  obtain ⟨front, back⟩ := List.append_inj lists sameLength
  exact ⟨String.toList_inj.mp front, String.toList_inj.mp back⟩

/-- Filled with texts of one length, the joined lines tell the texts apart. -/
private theorem eq_of_joined {separator : String} (sameLength : first.length = second.length)
    {lines : List BlankLine}
    (joined : separator.intercalate (lines.map (BlankLine.fill first)) =
      separator.intercalate (lines.map (BlankLine.fill second)))
    {line : BlankLine} (member : line ∈ lines) (isOpen : line.isOpen = true) : first = second := by
  have filled (line : BlankLine) : (line.fill first).length = (line.fill second).length := by
    rw [length_fill, length_fill, sameLength]
  have ofLine (equal : line.fill first = line.fill second) : first = second := by
    simpa only [BlankLine.fill, isOpen, if_true, String.append_right_inj] using equal
  induction lines with
  | nil => cases member
  | cons head rest ih =>
      cases rest with
      | nil =>
          cases List.mem_singleton.mp member
          simp only [List.map_cons, List.map_nil, String.intercalate_singleton] at joined
          exact ofLine joined
      | cons next rest =>
          rw [List.map_cons, List.map_cons, String.intercalate_cons_cons, List.map_cons,
            List.map_cons, String.intercalate_cons_cons, String.append_assoc,
            String.append_assoc] at joined
          obtain ⟨here, after⟩ := append_inj (filled head) joined
          rcases List.mem_cons.mp member with rfl | later
          · exact ofLine here
          · exact ih (append_inj rfl after).2 later

theorem DifferIn.joined_eq_iff {occurs : Prop} {one two : List String}
    (differ : DifferIn first second occurs one two) (separator : String) :
    separator.intercalate one = separator.intercalate two ↔ (occurs → first = second) := by
  obtain ⟨lines, rfl, rfl, blanks⟩ := differ
  rw [blanks]
  constructor
  · rintro joined ⟨line, member, isOpen⟩
    obtain ⟨length, long⟩ := exists_length_joined separator lines
    have some : 0 < lines.countP BlankLine.isOpen := List.countP_pos_iff.mpr ⟨line, member, isOpen⟩
    have equal := congrArg String.length joined
    rw [long, long, Nat.add_left_cancel_iff] at equal
    exact eq_of_joined (Nat.eq_of_mul_eq_mul_left some equal) joined member isOpen
  · intro same
    congr 1
    refine List.map_congr_left fun line member => ?_
    cases isOpen : line.isOpen with
    | true => rw [same ⟨line, member, isOpen⟩]
    | false => simp [BlankLine.fill, isOpen]

end DeclarativeForm.Outline
