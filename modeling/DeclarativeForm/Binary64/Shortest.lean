import DeclarativeForm.Binary64.Rounding

/-!
The shortest decimal that reads back as a given double. The reals that round to a double form an
interval; the grids of decimals with one, two, … seventeen digits are tried in turn, and on each
only the two neighbours of the double can be the first point of the grid inside the interval.
-/

set_option autoImplicit false

namespace DeclarativeForm

structure Decimal where
  digits : Nat
  exponent : Int
deriving DecidableEq, Repr

namespace Binary64

/-- A double between the midpoints to its neighbours, all three over one denominator. -/
structure Surroundings where
  below : Nat
  value : Nat
  above : Nat
  denominator : Nat
  /-- Midpoints round to the double whose last bit is zero. -/
  midpointsIncluded : Bool

/-- The reals that round to the finite non-zero double `x`. The gap below a power of two is half
as wide as the gap above it. -/
def surroundings (x : Binary64) : Surroundings :=
  let unit := if 1077 ≤ x.scale then Nat.pow 2 (x.scale - 1077) else 1
  let gapBelow := if x.significand = binade ∧ 1 < x.scale then 1 else 2
  { below := (4 * x.significand - gapBelow) * unit
    value := 4 * x.significand * unit
    above := (4 * x.significand + 2) * unit
    denominator := if 1077 ≤ x.scale then 1 else Nat.pow 2 (1077 - x.scale)
    midpointsIncluded := x.significand % 2 == 0 }

def digitCount (value : Nat) : Nat := (Nat.toDigits 10 value).length

/-- The exponent of the leading decimal digit of a positive quotient. -/
def leadingExponent (numerator denominator : Nat) : Int :=
  if denominator ≤ numerator then (digitCount (numerator / denominator) : Int) - 1
  else -(digitCount ((denominator - 1) / numerator) : Int)

/-- Compares `candidate * 10 ^ exponent` with `numerator / denominator`. -/
def compareDecimal (candidate : Nat) (exponent : Int) (numerator denominator : Nat) : Ordering :=
  match exponent with
  | .ofNat power => compare (candidate * Nat.pow 10 power * denominator) numerator
  | .negSucc power => compare (candidate * denominator) (numerator * Nat.pow 10 (power + 1))

/-- Whether a decimal reads back as the double in the middle. -/
def Surroundings.holds (around : Surroundings) (candidate : Nat) (exponent : Int) : Bool :=
  let low := compareDecimal candidate exponent around.below around.denominator
  let high := compareDecimal candidate exponent around.above around.denominator
  if around.midpointsIncluded then low != .lt && high != .gt else low == .gt && high == .lt

/-- The multiple of `10 ^ exponent` at or below the double. -/
def Surroundings.floorOn (around : Surroundings) (exponent : Int) : Nat :=
  match exponent with
  | .ofNat power => around.value / (around.denominator * Nat.pow 10 power)
  | .negSucc power => around.value * Nat.pow 10 (power + 1) / around.denominator

/-- The decimal on the grid of `10 ^ exponent` that reads back, the nearer one where two do and
the even one on a tie. -/
def Surroundings.pick (around : Surroundings) (exponent : Int) : Option Nat :=
  let lower := around.floorOn exponent
  match around.holds lower exponent, around.holds (lower + 1) exponent with
  | false, false => none
  | true, false => some lower
  | false, true => some (lower + 1)
  | true, true =>
    match compareDecimal (2 * lower + 1) exponent (2 * around.value) around.denominator with
    | .lt => some (lower + 1)
    | .gt => some lower
    | .eq => some (if lower % 2 = 0 then lower else lower + 1)

/-- Tries the next grids, each with one digit more than the last. -/
def Surroundings.search (around : Surroundings) : Nat → Int → Decimal
  | 0, exponent => ⟨around.floorOn exponent, exponent⟩
  | grids + 1, exponent =>
    match around.pick exponent with
    | some digits => ⟨digits, exponent⟩
    | none => around.search grids (exponent - 1)

def Decimal.trim (decimal : Decimal) : Nat → Decimal
  | 0 => decimal
  | steps + 1 =>
    if decimal.digits ≠ 0 ∧ decimal.digits % 10 = 0 then
      Decimal.trim ⟨decimal.digits / 10, decimal.exponent + 1⟩ steps
    else decimal

/-- The shortest decimal that reads back as the magnitude of a finite double; zero is `0`. -/
def shortest (x : Binary64) : Decimal :=
  if x.magnitude = 0 then ⟨0, 0⟩
  else
    let around := x.surroundings
    let leading := leadingExponent around.value around.denominator
    Decimal.trim (around.search 17 leading) 20

example : shortest ⟨false, 0x3FB999999999999A⟩ = ⟨1, -1⟩ := by decide +kernel
example : shortest ⟨false, 1⟩ = ⟨5, -324⟩ := by decide +kernel
example : shortest (nearest false 18446744073709551616 1) = ⟨18446744073709552, 3⟩ := by
  decide +kernel

end Binary64

end DeclarativeForm
