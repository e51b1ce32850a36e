import DeclarativeForm.Text.Category
import DeclarativeForm.Text.Property

/-!
Letters and digits, in any script.
-/

set_option autoImplicit false

namespace DeclarativeForm.Text

def isAlphanumeric (c : Char) : Bool :=
  Property.alphabetic.containsChar c
    || Category.isAny [Category.decimalNumber, Category.letterNumber, Category.otherNumber] c

end DeclarativeForm.Text
