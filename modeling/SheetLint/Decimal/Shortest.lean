/-
This file finds the decimal with the fewest digits that still reads back as a given binary
fraction. All of it is exact arithmetic on natural numbers.
-/

namespace SheetLint

/-- This is the number `digits` · 10 ^ `exponent`. -/
structure Decimal where
  digits : Nat
  exponent : Int
  deriving DecidableEq, Repr

namespace Decimal

/-- This is the set of numbers that round to one binary fraction. The three numbers are to be
divided by `denominator`; the ends belong to the set when it is `closed`. -/
structure RoundingInterval where
  lower : Nat
  value : Nat
  upper : Nat
  denominator : Nat
  closed : Bool
  deriving DecidableEq, Repr

/-- This is the rounding interval of the magnitude that the 64 bits of a binary fraction encode. -/
def RoundingInterval.ofBits (bits : Nat) : RoundingInterval :=
  let field := bits / Nat.pow 2 52 % Nat.pow 2 11
  let fraction := bits % Nat.pow 2 52
  let mantissa := if field = 0 then fraction else fraction + Nat.pow 2 52
  let lower := if fraction = 0 ∧ 1 < field then 4 * mantissa - 1 else 4 * mantissa - 2
  let place : Int := ((max field 1 : Nat) : Int) - 1077
  let scale := Nat.pow 2 place.toNat
  { lower := lower * scale
    value := 4 * mantissa * scale
    upper := (4 * mantissa + 2) * scale
    denominator := Nat.pow 2 (-place).toNat
    closed := mantissa % 2 == 0 }

/-- This is the same interval measured in units of 10 ^ `exponent`. -/
def RoundingInterval.inUnits (interval : RoundingInterval) (exponent : Int) : RoundingInterval :=
  let factor := Nat.pow 10 (-exponent).toNat
  { interval with
    lower := interval.lower * factor
    value := interval.value * factor
    upper := interval.upper * factor
    denominator := interval.denominator * Nat.pow 10 exponent.toNat }

/-- This test holds when a whole number of units lies in the interval. -/
def RoundingInterval.holds (interval : RoundingInterval) (count : Nat) : Bool :=
  let place := count * interval.denominator
  if interval.closed then interval.lower ≤ place && place ≤ interval.upper
  else interval.lower < place && place < interval.upper

/-- This is the whole number in the interval that is nearest to the value, the even one of two
that are equally near. Only the two neighbours of the value need a look: every other whole number
is farther away on the same side. -/
def RoundingInterval.nearestWhole? (interval : RoundingInterval) : Option Nat :=
  let below := interval.value / interval.denominator
  let above := below + 1
  match interval.holds below, interval.holds above with
  | false, false => none
  | true, false => some below
  | false, true => some above
  | true, true =>
      let down := interval.value - below * interval.denominator
      let up := above * interval.denominator - interval.value
      if down < up then some below
      else if up < down then some above
      else if below % 2 == 0 then some below else some above

/-- This is the exponent of the leading decimal digit of the value. -/
def RoundingInterval.leadingExponent (interval : RoundingInterval) : Int :=
  let whole := interval.value / interval.denominator
  if 0 < whole then (Nat.toDigits 10 whole).length - 1
  else
    let shift := (List.range 400).find? fun places =>
      decide (interval.denominator ≤ interval.value * Nat.pow 10 places)
    Int.negOfNat (shift.getD 400)

/-- This function moves trailing zeros of the digits into the exponent. -/
def dropZeros : Nat → Decimal → Decimal
  | 0, decimal => decimal
  | fuel + 1, decimal =>
      if decimal.digits % 10 = 0 ∧ decimal.digits ≠ 0 then
        dropZeros fuel ⟨decimal.digits / 10, decimal.exponent + 1⟩
      else decimal

/-- This is the nearest decimal on the coarsest grid that has one in the interval. Seventeen digits
always suffice for a fraction of 53 bits. -/
def RoundingInterval.shortest (interval : RoundingInterval) : Decimal :=
  let leading := interval.leadingExponent
  let found := (List.range 17).findSome? fun (further : Nat) =>
    let exponent := leading - (further : Int)
    ((interval.inUnits exponent).nearestWhole?).map fun digits => Decimal.mk digits exponent
  dropZeros 20 (found.getD ⟨interval.value / interval.denominator, 0⟩)

/-- This is the shortest decimal of the magnitude that the 64 bits encode. -/
def shortestOfBits (bits : Nat) : Decimal :=
  let magnitude := bits % Nat.pow 2 63
  if magnitude = 0 then ⟨0, 0⟩ else (RoundingInterval.ofBits magnitude).shortest

end Decimal
end SheetLint
