/-!
Double-precision numbers as bit patterns. A double is its sign and the 63 bits below it, read as
one natural number. The bits of larger finite doubles are larger, so the order of doubles is the
order of their signed bit patterns and no arithmetic on machine floats is needed.
-/

set_option autoImplicit false

namespace DeclarativeForm

/-- A double: its sign, and the exponent and fraction fields as one number. -/
structure Binary64 where
  negative : Bool
  magnitude : Nat
deriving DecidableEq, Repr, Inhabited

namespace Binary64

/-- The bits of infinity; everything above them is not a number. -/
def infinityBits : Nat := 0x7FF0000000000000

/-- One binade: the number of fractions per exponent. -/
def binade : Nat := Nat.pow 2 52

def zero : Binary64 := ⟨false, 0⟩

def one : Binary64 := ⟨false, 0x3FF0000000000000⟩

def infinity (negative : Bool) : Binary64 := ⟨negative, infinityBits⟩

def notANumber : Binary64 := ⟨false, 0x7FF8000000000000⟩

def isNaN (x : Binary64) : Bool := infinityBits < x.magnitude

/-- The signed bit pattern. Both zeros have rank zero. -/
def rank (x : Binary64) : Int :=
  if x.negative then -(x.magnitude : Int) else (x.magnitude : Int)

/-- What is not a number is equal to nothing. -/
def equal (x y : Binary64) : Bool := !x.isNaN && !y.isNaN && x.rank == y.rank

/-- What is not a number is below nothing. -/
def less (x y : Binary64) : Bool := !x.isNaN && !y.isNaN && decide (x.rank < y.rank)

/-- What is not a number is neither below nor equal to anything. -/
def lessOrEqual (x y : Binary64) : Bool := !x.isNaN && !y.isNaN && decide (x.rank ≤ y.rank)

def bits (x : Binary64) : Nat := (if x.negative then Nat.pow 2 63 else 0) + x.magnitude

/-- The integer `m` of the finite magnitude `m * 2 ^ (e - 1075)`. -/
def significand (x : Binary64) : Nat :=
  if x.magnitude < binade then x.magnitude else binade + x.magnitude % binade

/-- The exponent `e` of the finite magnitude `m * 2 ^ (e - 1075)`. -/
def scale (x : Binary64) : Nat := max 1 (x.magnitude / binade)

/-- The finite magnitude as a quotient of two natural numbers. -/
def ratio (x : Binary64) : Nat × Nat :=
  if 1075 ≤ x.scale then (x.significand * Nat.pow 2 (x.scale - 1075), 1)
  else (x.significand, Nat.pow 2 (1075 - x.scale))

/-- The integer part of a non-negative double, kept below `limit`; infinity gives `limit - 1`. -/
def truncateBelow (limit : Nat) (x : Binary64) : Nat :=
  if x.isNaN then 0
  else if x.magnitude = infinityBits then limit - 1
  else min (limit - 1) (x.ratio.1 / x.ratio.2)

end Binary64

end DeclarativeForm
