import DeclarativeForm.Binary64.Rounding

/-!
Reading a numeral as a double. A numeral has an optional sign, digits with an optional point, at
least one digit in all, and an optional exponent; `inf`, `infinity` and `nan` are read in any
case. The result is the double nearest to the decimal.
-/

set_option autoImplicit false

namespace DeclarativeForm.Binary64

/-- The value of a run of decimal digits, continuing `start`. -/
def digitsValue (start : Nat) (digits : List Char) : Nat :=
  digits.foldl (fun value digit => 10 * value + (digit.toNat - 48)) start

/-- The double nearest to `digits * 10 ^ exponent`. Powers far outside the range of doubles are
answered without being computed. -/
def ofDecimal (negative : Bool) (digits : Nat) (exponent : Int) : Binary64 :=
  let size : Int := (Nat.toDigits 10 digits).length
  if digits = 0 then ⟨negative, 0⟩
  else if 400 < size + exponent then infinity negative
  else if size + exponent < -400 then ⟨negative, 0⟩
  else match exponent with
    | .ofNat power => nearest negative (digits * Nat.pow 10 power) 1
    | .negSucc power => nearest negative digits (Nat.pow 10 (power + 1))

/-- The exponent part of a numeral: nothing, or a mark, an optional sign and digits. -/
def exponentPart : List Char → Option Int
  | [] => some 0
  | mark :: rest =>
    if mark = 'e' ∨ mark = 'E' then
      let (negative, digits) := match rest with
        | '-' :: digits => (true, digits)
        | '+' :: digits => (false, digits)
        | digits => (false, digits)
      if digits ≠ [] ∧ digits.all Char.isDigit then
        let value : Int := digitsValue 0 digits
        some (if negative then -value else value)
      else none
    else none

def unsignedNumeral (negative : Bool) (text : List Char) : Option Binary64 :=
  let word := text.map Char.toLower
  if word = ['i', 'n', 'f'] ∨ word = ['i', 'n', 'f', 'i', 'n', 'i', 't', 'y'] then
    some (infinity negative)
  else if word = ['n', 'a', 'n'] then some { notANumber with negative }
  else
    let whole := text.takeWhile Char.isDigit
    let afterWhole := text.dropWhile Char.isDigit
    let (fraction, afterFraction) := match afterWhole with
      | '.' :: rest => (rest.takeWhile Char.isDigit, rest.dropWhile Char.isDigit)
      | rest => ([], rest)
    if whole.isEmpty && fraction.isEmpty then none
    else
      (exponentPart afterFraction).map fun exponent =>
        ofDecimal negative (digitsValue (digitsValue 0 whole) fraction)
          (exponent - (fraction.length : Int))

def ofNumeral? (text : String) : Option Binary64 :=
  match text.toList with
  | '-' :: rest => unsignedNumeral true rest
  | '+' :: rest => unsignedNumeral false rest
  | rest => unsignedNumeral false rest

example : (ofNumeral? "-.5e1").map bits = some 0xC014000000000000 := by decide +kernel
example : ofNumeral? "1_000" = none := by decide +kernel
example : ofNumeral? "." = none := by decide +kernel
example : (ofNumeral? "1.").map bits = some 0x3FF0000000000000 := by decide +kernel
example : ofNumeral? "+Infinity" = some (infinity false) := by decide +kernel

end DeclarativeForm.Binary64
