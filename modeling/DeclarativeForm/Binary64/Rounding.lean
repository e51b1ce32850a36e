import DeclarativeForm.Binary64.Basic

/-!
Rounding quotients of natural numbers to the nearest double. A quotient is divided by the power of
two that leaves 53 bits, the rest is rounded with ties to the even neighbour, and exponent and
fraction are put together by one addition, so that a carry out of the fraction moves to the next
binade by itself.
-/

set_option autoImplicit false

namespace DeclarativeForm.Binary64

/-- The integer nearest to `numerator / denominator`; a tie goes to the even neighbour. -/
def roundQuotient (numerator denominator : Nat) : Nat :=
  let quotient := numerator / denominator
  let doubledRest := 2 * (numerator % denominator)
  if doubledRest < denominator then quotient
  else if denominator < doubledRest then quotient + 1
  else quotient + quotient % 2

/-- The integer nearest to `(numerator / denominator) / 2 ^ exponent`. -/
def roundScaled (numerator denominator : Nat) (exponent : Int) : Nat :=
  match exponent with
  | .ofNat shift => roundQuotient numerator (denominator * Nat.pow 2 shift)
  | .negSucc shift => roundQuotient (numerator * Nat.pow 2 (shift + 1)) denominator

/-- The exponent of the last of the 53 bits of `numerator / denominator`, never below that of the
smallest double. -/
def lastBitExponent (numerator denominator : Nat) : Int :=
  let estimate : Int := (numerator.log2 : Int) - (denominator.log2 : Int)
  let reaches : Bool := match estimate with
    | .ofNat shift => denominator * Nat.pow 2 shift ≤ numerator
    | .negSucc shift => denominator ≤ numerator * Nat.pow 2 (shift + 1)
  let leading := if reaches then estimate else estimate - 1
  max (leading - 52) (-1074)

def nearestBits (numerator denominator : Nat) : Nat :=
  if numerator = 0 then 0
  else
    let exponent := lastBitExponent numerator denominator
    let significand := roundScaled numerator denominator exponent
    min infinityBits ((exponent + 1074).toNat * binade + significand)

def nearest (negative : Bool) (numerator denominator : Nat) : Binary64 :=
  ⟨negative, nearestBits numerator denominator⟩

def ofInt (value : Int) : Binary64 := nearest (decide (value < 0)) value.natAbs 1

def ofNat (value : Nat) : Binary64 := nearest false value 1

def times (x y : Binary64) : Binary64 :=
  nearest (x.negative != y.negative) (x.ratio.1 * y.ratio.1) (x.ratio.2 * y.ratio.2)

def divide (x y : Binary64) : Binary64 :=
  nearest (x.negative != y.negative) (x.ratio.1 * y.ratio.2) (x.ratio.2 * y.ratio.1)

example : ofInt 1 = one := by decide
example : (ofInt (-3)).bits = 0xC008000000000000 := by decide
example : (nearest false 1 10).bits = 0x3FB999999999999A := by decide
example : (ofNat 9007199254740993).bits = 0x4340000000000000 := by decide

end DeclarativeForm.Binary64
