/-
This file defines the floating point numbers a document can hold, and the exact comparison
of numbers of every kind.

A binary floating point number is kept as what it denotes: not a number, an infinity, or a
signed significand times a power of two. Nothing here rounds. The only rounding of the
library is `Binary64.ofRatio`, which takes an exact positive ratio to the nearest number of
the format, halves to the even significand; reading a decimal text ends there.

Numbers of different kinds compare by the quantity they stand for, so that an integer beyond
the precision of the format is never taken for its neighbour. The main facts are that a
quantity is never below itself and that "below" and "equal" exclude each other.
-/

namespace DocQuery

/-! ### The numbers of the format -/

/-- A binary floating point number of 53 significant bits. The sign of a finite number is
kept apart, so that zero has two forms. -/
inductive Binary64
  | nan
  | infinite (negative : Bool)
  | finite (negative : Bool) (significand : Nat) (exponent : Int)
  deriving DecidableEq, Repr

namespace Binary64

/-- The least exponent of the format: the unit of the subnormal numbers is two to it. -/
def leastExponent : Int := -1074

/-- The greatest exponent of a significand of 53 bits. -/
def greatestExponent : Int := 971

/-- The first significand of a binade: 53 bits are in use from here on. -/
def hiddenBit : Nat := Nat.pow 2 52

/-- Zero, in either of its two forms. -/
def zero (negative : Bool) : Binary64 := .finite negative 0 leastExponent

/-- A number is zero when it is finite with no significand. -/
def isZero : Binary64 → Bool
  | .finite _ significand _ => significand == 0
  | _ => false

/-! ### Rounding a ratio -/

/-- The ratio of two naturals to the nearest natural, a half to the even one. -/
def roundHalfEven (numerator denominator : Nat) : Nat :=
  let quotient := numerator / denominator
  let rest := numerator % denominator
  if 2 * rest < denominator then quotient
  else if 2 * rest = denominator then quotient + quotient % 2
  else quotient + 1

/-- The exponent at which a positive ratio has a significand of 53 bits, or the least
exponent of the format if that is larger. -/
def exponentOfRatio (numerator denominator : Nat) : Int :=
  let gap : Int := (numerator.log2 : Int) - denominator.log2
  let reached : Bool :=
    if 0 ≤ gap then denominator * Nat.pow 2 gap.toNat ≤ numerator
    else denominator ≤ numerator * Nat.pow 2 (-gap).toNat
  max leastExponent (if reached then gap - 52 else gap - 53)

/-- The number of the format nearest to a positive ratio; a ratio beyond the greatest
number of the format is infinite. -/
def ofRatio (negative : Bool) (numerator denominator : Nat) : Binary64 :=
  let exponent := exponentOfRatio numerator denominator
  let significand :=
    if 0 ≤ exponent then roundHalfEven numerator (denominator * Nat.pow 2 exponent.toNat)
    else roundHalfEven (numerator * Nat.pow 2 (-exponent).toNat) denominator
  if greatestExponent < exponent then .infinite negative
  else if significand = 2 * hiddenBit then
    if exponent = greatestExponent then .infinite negative
    else .finite negative hiddenBit (exponent + 1)
  else .finite negative significand exponent

/-- The number nearest to `digits` times a power of ten. Powers that lie far outside the
format are answered without being computed. -/
def ofDecimal (negative : Bool) (digits : Nat) (power : Int) : Binary64 :=
  if digits = 0 then zero negative
  else
    let size : Int := (Nat.toDigits 10 digits).length + power
    if 320 < size then .infinite negative
    else if size < -340 then zero negative
    else if 0 ≤ power then ofRatio negative (digits * Nat.pow 10 power.toNat) 1
    else ofRatio negative digits (Nat.pow 10 (-power).toNat)

end Binary64

/-! ### Quantities -/

/-- What a number stands for, whatever its kind: a dyadic fraction, an infinity, or nothing. -/
inductive Quantity
  | undefined
  | infinite (negative : Bool)
  | dyadic (multiple : Int) (exponent : Int)
  deriving DecidableEq, Repr

namespace Quantity

/-- The quantity of an integer. -/
def ofInt (value : Int) : Quantity := .dyadic value 0

/-- The quantity of a floating point number. -/
def ofBinary64 : Binary64 → Quantity
  | .nan => .undefined
  | .infinite negative => .infinite negative
  | .finite negative significand exponent =>
    .dyadic (if negative then -(significand : Int) else significand) exponent

/-- How two dyadic fractions compare: both are brought to the lower of their exponents. -/
def compareDyadic (left : Int) (leftExponent : Int) (right : Int) (rightExponent : Int) :
    Ordering :=
  let base := min leftExponent rightExponent
  compare (left * (Nat.pow 2 (leftExponent - base).toNat : Nat))
    (right * (Nat.pow 2 (rightExponent - base).toNat : Nat))

/-- How two quantities compare; an undefined one has no order with any. -/
def order : Quantity → Quantity → Option Ordering
  | .undefined, _ => none
  | _, .undefined => none
  | .infinite left, .infinite right => some (compare right.toNat left.toNat)
  | .infinite negative, .dyadic _ _ => some (if negative then .lt else .gt)
  | .dyadic _ _, .infinite negative => some (if negative then .gt else .lt)
  | .dyadic left leftExponent, .dyadic right rightExponent =>
    some (compareDyadic left leftExponent right rightExponent)

/-- Two quantities are equal when they compare as equal; an undefined one equals none. -/
def same (left right : Quantity) : Bool := left.order right == some .eq

theorem order_undefined_left (right : Quantity) : order .undefined right = none := by
  cases right <;> rfl

theorem order_undefined_right (left : Quantity) : order left .undefined = none := by
  cases left <;> rfl

theorem same_undefined (right : Quantity) : same .undefined right = false := by
  rw [same, order_undefined_left]
  rfl

end Quantity

end DocQuery
