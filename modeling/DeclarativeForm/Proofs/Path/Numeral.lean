import DeclarativeForm.Path.Reindex

/-!
Indices as they are written. The decimal numeral of an index below the bound is read back as that
index, with or without the brackets' own reader.
-/

set_option autoImplicit false

namespace DeclarativeForm

namespace FieldPath

def numeral (position : Nat) : List Char := (toString position).toList

theorem numeral_eq_toDigits (position : Nat) : numeral position = Nat.toDigits 10 position :=
  Nat.toList_repr

theorem isDigit_of_mem_numeral {position : Nat} {c : Char} (member : c ∈ numeral position) :
    c.isDigit = true := by
  rw [numeral_eq_toDigits] at member
  exact Nat.isDigit_of_mem_toDigits (by decide) (by decide) member

theorem numeral_ne_nil (position : Nat) : numeral position ≠ [] := by
  rw [numeral_eq_toDigits]
  exact Nat.toDigits_ne_nil

theorem not_mem_numeral {position : Nat} {c : Char} (noDigit : c.isDigit = false) :
    c ∉ numeral position := by
  intro member
  rw [isDigit_of_mem_numeral member] at noDigit
  cases noDigit

/-- The value of a numeral, whatever its size. -/
theorem foldl_numeral (position : Nat) :
    (numeral position).foldl (fun value digit => 10 * value + (digit.toNat - 48)) 0 = position := by
  rw [numeral_eq_toDigits]
  exact Nat.ofDigitChars_ten_toDigits

theorem indexOfDigits?_numeral (position : Nat) :
    indexOfDigits? (numeral position) = if indexLimit ≤ position then none else some position := by
  have filled : (numeral position).isEmpty = false := by
    simpa using numeral_ne_nil position
  simp only [indexOfDigits?, foldl_numeral, filled, Bool.false_or, decide_eq_true_eq]

theorem numeral_injective {first second : Nat} (same : numeral first = numeral second) :
    first = second := by
  rw [← foldl_numeral first, ← foldl_numeral second, same]

theorem lt_of_indexOfDigits? {digits : List Char} {position : Nat}
    (read : indexOfDigits? digits = some position) : position < indexLimit := by
  simp only [indexOfDigits?] at read
  split at read
  · cases read
  · rename_i inRange
    simp only [Bool.or_eq_true, decide_eq_true_eq, not_or, Nat.not_le] at inRange
    cases read
    exact inRange.2

end FieldPath

open FieldPath

theorem bracketedIndex?_numeral_eq (position : Nat) :
    bracketedIndex? (numeral position) =
      if indexLimit ≤ position then none else some position := by
  have noPlus : '+' ∉ numeral position := not_mem_numeral (by decide)
  have digits : (numeral position).all Char.isDigit = true :=
    List.all_eq_true.mpr fun _ => isDigit_of_mem_numeral
  have read := indexOfDigits?_numeral position
  generalize numeral position = text at noPlus digits read
  unfold bracketedIndex?
  split
  · exact absurd List.mem_cons_self noPlus
  · exact (if_pos digits).trans read

theorem bracketedIndex?_numeral {position : Nat} (small : position < indexLimit) :
    bracketedIndex? (numeral position) = some position := by
  rw [bracketedIndex?_numeral_eq, if_neg (Nat.not_le.mpr small)]

theorem not_mem_of_bracketedIndex? {text : List Char} {position : Nat}
    (read : bracketedIndex? text = some position) {c : Char} (noDigit : c.isDigit = false)
    (noPlus : c ≠ '+') : c ∉ text := by
  have inside {digits : List Char} (digit : digits.all Char.isDigit = true) : c ∉ digits := by
    intro member
    rw [List.all_eq_true.mp digit c member] at noDigit
    cases noDigit
  unfold bracketedIndex? at read
  split at read
  · rename_i digits
    dsimp only at read
    split at read
    · rename_i digit
      intro member
      rcases List.mem_cons.mp member with isPlus | later
      · exact noPlus isPlus
      · exact inside digit later
    · cases read
  · dsimp only at read
    split at read
    · rename_i digit
      exact inside digit
    · cases read

theorem lt_of_bracketedIndex? {text : List Char} {position : Nat}
    (read : bracketedIndex? text = some position) : position < indexLimit := by
  unfold bracketedIndex? at read
  split at read
  all_goals
    dsimp only at read
    split at read
    · exact lt_of_indexOfDigits? read
    · cases read

end DeclarativeForm
