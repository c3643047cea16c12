/-
This file writes floating point numbers as decimals and reads decimals back.

The written form of a finite number has the fewest digits that read back as the number, and
among those the digits nearest to it. The digits are found by exact integer arithmetic: a
number owns the interval of reals that round to it, and for each count of digits the two
decimals around the number are tried, fewest digits first. `DecimalStyle` says how digits and
exponent are laid out; the library uses one style, `DecimalStyle.plain`.
-/

import DocQuery.Number.Binary64

namespace DocQuery

/-! ### Fewest digits -/

/-- A positive decimal: `digits` times ten to `power`. -/
structure Decimal where
  digits : Nat
  power : Int
  deriving DecidableEq, Repr

namespace Decimal

/-- The digits of a decimal, most significant first. -/
def digitChars (decimal : Decimal) : List Char := Nat.toDigits 10 decimal.digits

/-- The power of ten of the first digit. -/
def leadingPower (decimal : Decimal) : Int :=
  decimal.power + (decimal.digitChars.length : Int) - 1

/-- A decimal without the zeros at its end. -/
def trimmed (decimal : Decimal) : Nat → Decimal
  | 0 => decimal
  | fuel + 1 =>
    if decimal.digits ≠ 0 ∧ decimal.digits % 10 = 0 then
      trimmed ⟨decimal.digits / 10, decimal.power + 1⟩ fuel
    else decimal

end Decimal

/-- The reals that round to one positive number, in units of a quarter of its last bit: the
number is `4 * significand` units, and the two ends belong to the interval when the
significand is even. -/
structure RoundingInterval where
  low : Nat
  middle : Nat
  high : Nat
  closed : Bool
  exponent : Int
  deriving DecidableEq, Repr

namespace RoundingInterval

/-- The interval of a positive number. Below the first significand of a binade the
neighbours lie closer. -/
def ofFinite (significand : Nat) (exponent : Int) : RoundingInterval where
  low :=
    if significand = Binary64.hiddenBit ∧ Binary64.leastExponent < exponent then
      4 * significand - 1
    else 4 * significand - 2
  middle := 4 * significand
  high := 4 * significand + 2
  closed := significand % 2 == 0
  exponent := exponent - 2

/-- How a count of interval units compares with a decimal. -/
def compareUnits (units : Nat) (exponent : Int) (decimal : Decimal) : Ordering :=
  let twos := if 0 ≤ exponent then units * Nat.pow 2 exponent.toNat else units
  let tens :=
    if 0 ≤ decimal.power then decimal.digits * Nat.pow 10 decimal.power.toNat else decimal.digits
  let left := if 0 ≤ decimal.power then twos else twos * Nat.pow 10 (-decimal.power).toNat
  let right := if 0 ≤ exponent then tens else tens * Nat.pow 2 (-exponent).toNat
  compare left right

/-- Whether a decimal reads back as the number that owns the interval. -/
def contains (interval : RoundingInterval) (decimal : Decimal) : Bool :=
  let aboveLow := compareUnits interval.low interval.exponent decimal
  let belowHigh := compareUnits interval.high interval.exponent decimal
  (aboveLow == .lt || (interval.closed && aboveLow == .eq)) &&
    (belowHigh == .gt || (interval.closed && belowHigh == .eq))

/-- The greatest multiple of a power of ten that is not above the number. -/
def floorAt (interval : RoundingInterval) (power : Int) : Decimal :=
  let twos :=
    if 0 ≤ interval.exponent then interval.middle * Nat.pow 2 interval.exponent.toNat
    else interval.middle
  let below := if 0 ≤ interval.exponent then 1 else Nat.pow 2 (-interval.exponent).toNat
  let digits :=
    if 0 ≤ power then twos / (below * Nat.pow 10 power.toNat)
    else twos * Nat.pow 10 (-power).toNat / below
  ⟨digits, power⟩

/-- Whether the upper of two neighbouring decimals lies nearer to the number; of two equally
near ones the even one is taken. -/
def upperIsNearer (interval : RoundingInterval) (lower : Decimal) : Bool :=
  match
    compareUnits (2 * interval.middle) interval.exponent ⟨2 * lower.digits + 1, lower.power⟩ with
  | .gt => true
  | .eq => lower.digits % 2 == 1
  | .lt => false

/-- The decimal of a given power that reads back as the number, if there is one. -/
def decimalAt? (interval : RoundingInterval) (power : Int) : Option Decimal :=
  let lower := interval.floorAt power
  let upper : Decimal := ⟨lower.digits + 1, power⟩
  match interval.contains lower && decide (lower.digits ≠ 0), interval.contains upper with
  | true, true => some (if interval.upperIsNearer lower then upper else lower)
  | true, false => some lower
  | false, true => some upper
  | false, false => none

/-- The power of ten of the number's first digit, looked for downwards from a bound. -/
def leadingPowerFrom (interval : RoundingInterval) (power : Int) : Nat → Int
  | 0 => power
  | fuel + 1 =>
    if (interval.floorAt power).digits = 0 then interval.leadingPowerFrom (power - 1) fuel
    else power

/-- The power of ten of the number's first digit. The search starts one above an estimate
from the binary length that is never too low. -/
def leadingPower (interval : RoundingInterval) : Int :=
  let length : Int := interval.exponent + interval.middle.log2 + 1
  interval.leadingPowerFrom (Int.fdiv (length * 30103) 100000 + 1) 8

/-- The first of `count` successively finer powers at which a decimal reads back. -/
def shortestFrom (interval : RoundingInterval) (power : Int) : Nat → Decimal
  | 0 => interval.floorAt power
  | count + 1 =>
    match interval.decimalAt? power with
    | some decimal => decimal
    | none => interval.shortestFrom (power - 1) count

/-- The decimal of fewest digits that reads back as the number. Seventeen digits always do. -/
def shortest (interval : RoundingInterval) : Decimal :=
  (interval.shortestFrom interval.leadingPower 17).trimmed 17

end RoundingInterval

/-! ### Layout -/

/-- How a decimal is written: the powers of the first digit from `lowest` up to below
`highest` are written positionally, all others with an exponent of at least `exponentWidth`
digits. -/
structure DecimalStyle where
  lowest : Int
  highest : Int
  exponentWidth : Nat

namespace DecimalStyle

/-- The style of the library: positional from a ten-thousandth to below ten to the
sixteenth, and an exponent of two digits at least. -/
def plain : DecimalStyle := ⟨-4, 16, 2⟩

/-- Zeros in front of a digit string, up to a width. -/
def padded (width : Nat) (digits : List Char) : List Char :=
  List.replicate (width - digits.length) '0' ++ digits

/-- A decimal in positional notation, with at least one digit on both sides of the point. -/
def positional (digits : List Char) (leading : Int) : List Char :=
  if leading < 0 then
    ['0', '.'] ++ List.replicate (-leading - 1).toNat '0' ++ digits
  else
    let whole := leading.toNat + 1
    if digits.length ≤ whole then
      digits ++ List.replicate (whole - digits.length) '0' ++ ['.', '0']
    else digits.take whole ++ '.' :: digits.drop whole

/-- A decimal with an exponent. -/
def scientific (style : DecimalStyle) (digits : List Char) (leading : Int) : List Char :=
  let head := match digits with
    | [] => []
    | [digit] => [digit]
    | digit :: others => digit :: '.' :: others
  let sign := if leading < 0 then '-' else '+'
  head ++ ['e', sign] ++ padded style.exponentWidth (Nat.toDigits 10 leading.natAbs)

/-- The written form of a positive decimal. -/
def write (style : DecimalStyle) (decimal : Decimal) : List Char :=
  let leading := decimal.leadingPower
  if style.lowest ≤ leading ∧ leading < style.highest then
    positional decimal.digitChars leading
  else style.scientific decimal.digitChars leading

end DecimalStyle

/-! ### Words for the numbers that have no digits -/

/-- How the numbers without digits are written: the word of each may differ between formats. -/
structure NumberWords where
  undefined : List Char
  infinite : List Char

namespace Binary64

/-- A floating point number as text, with the given words for what has no digits. -/
def write (words : NumberWords) : Binary64 → List Char
  | .nan => words.undefined
  | .infinite negative => if negative then '-' :: words.infinite else words.infinite
  | .finite negative significand exponent =>
    let body :=
      if significand = 0 then ['0', '.', '0']
      else DecimalStyle.plain.write (RoundingInterval.ofFinite significand exponent).shortest
    if negative then '-' :: body else body

/-- The words of values shown to a reader. -/
def shownWords : NumberWords := ⟨['n', 'a', 'n'], ['i', 'n', 'f']⟩

/-! ### Reading -/

/-- The parts of a decimal numeral: whether it has a minus sign, the digits before and after
the point, and the exponent. -/
structure Numeral where
  negative : Bool
  whole : List Char
  fraction : List Char
  exponent : Int
  deriving DecidableEq, Repr

/-- The number a numeral is nearest to. -/
def ofNumeral (numeral : Numeral) : Binary64 :=
  ofDecimal numeral.negative (Nat.ofDigitChars 10 (numeral.whole ++ numeral.fraction) 0)
    (numeral.exponent - numeral.fraction.length)

end Binary64

end DocQuery
