import DeclarativeForm.Text.Category
import DeclarativeForm.Text.Property

/-!
Quoted texts in diagnostics. A text is put in double quotes; quotes and backslashes get a
backslash, the common control characters their letter, and whatever would not show as a character
of its own, combining marks included, its code point.
-/

set_option autoImplicit false

namespace DeclarativeForm.Text

/-- Whether a character shows as a character of its own. -/
def isVisible (c : Char) : Bool :=
  c = ' ' || !(Property.graphemeExtend.containsChar c || Category.isAny Category.invisible c)

/-- A character as it is written between quotes. -/
def quoteChar (c : Char) : List Char :=
  if c.toNat = 0 then ['\\', '0']
  else if c = '\t' then ['\\', 't']
  else if c = '\r' then ['\\', 'r']
  else if c = '\n' then ['\\', 'n']
  else if c = '"' ∨ c = '\\' then ['\\', c]
  else if 0x20 ≤ c.toNat ∧ c.toNat < 0x7F then [c]
  else if isVisible c then [c]
  else ['\\', 'u', '\x7b'] ++ Nat.toDigits 16 c.toNat ++ ['\x7d']

def quoted (text : String) : String :=
  String.ofList ('"' :: (text.toList.flatMap quoteChar ++ ['"']))

end DeclarativeForm.Text
