/-!
The strength of passwords. A password is scored by the classes of characters it has and by its
length; only ASCII letters and digits count as such.
-/

set_option autoImplicit false

namespace DeclarativeForm.Password

/-- The special characters a strong password has one of. -/
def specialCharacters : List Char := "!@#$%^&*(),.?\":\x7b\x7d|<>".toList

def hasUpper (password : String) : Bool := password.toList.any Char.isUpper

def hasLower (password : String) : Bool := password.toList.any Char.isLower

def hasDigit (password : String) : Bool := password.toList.any Char.isDigit

def hasSpecial (password : String) : Bool :=
  password.toList.any fun c => specialCharacters.contains c

/-- Whether all four classes of characters are there. -/
def isVaried (password : String) : Bool :=
  hasUpper password && hasLower password && hasDigit password && hasSpecial password

/-- A score from zero to five and its name. -/
structure Strength where
  score : Nat
  label : String
deriving DecidableEq, Repr

def scoreLabel : Nat → String
  | 0 => "Very Weak"
  | 1 => "Weak"
  | 2 => "Fair"
  | 3 => "Good"
  | 4 => "Strong"
  | _ => "Very Strong"

/-- The tests a password passes, one point each. -/
def score (password : String) (minLength : Nat) : Nat :=
  [decide (minLength ≤ password.length), hasUpper password, hasLower password,
    hasDigit password, hasSpecial password].countP id

/-- The strength of a password that should have `minLength` characters. -/
def strength (password : String) (minLength : Nat) : Strength :=
  if password.isEmpty then ⟨0, "No password"⟩
  else ⟨score password minLength, scoreLabel (score password minLength)⟩

end DeclarativeForm.Password
