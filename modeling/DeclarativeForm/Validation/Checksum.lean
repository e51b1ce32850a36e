import DeclarativeForm.Text.Blank

/-!
The checksum of card numbers. Counted from the right, every second digit is doubled, a doubled
digit above nine loses nine, and the sum of all has to be a multiple of ten. Blanks and dashes
between the digits do not count.
-/

set_option autoImplicit false

namespace DeclarativeForm.Checksum

/-- A doubled digit, brought back to one digit. -/
def doubled (digit : Nat) : Nat := if 9 < 2 * digit then 2 * digit - 9 else 2 * digit

/-- The weighted sum of digits, given from the right; `even` says that the next one is doubled. -/
def weightedSum : Bool → List Nat → Nat
  | _, [] => 0
  | even, digit :: rest => (if even then doubled digit else digit) + weightedSum (!even) rest

def significant (text : List Char) : List Char :=
  text.filter fun c => !Text.isBlank c && c ≠ '-'

/-- Whether a text is a number with a correct checksum. -/
def accepts (text : String) : Bool :=
  let digits := significant text.toList
  !digits.isEmpty && digits.all Char.isDigit
    && weightedSum false (digits.reverse.map fun digit => digit.toNat - 48) % 10 = 0

example : accepts "4111 1111-1111 1111" = true := by decide +kernel
example : accepts "4111 1111-1111 1112" = false := by decide +kernel

end DeclarativeForm.Checksum
