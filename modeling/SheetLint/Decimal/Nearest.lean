/-
This file finds the floating point number that is nearest to a decimal.
-/

import SheetLint.Decimal.Shortest

namespace SheetLint.Decimal

/-- Beyond this many places before or behind the point a magnitude is too large or nothing. -/
def placeLimit : Nat := 400

/-- This is the floating point number nearest to a decimal, unless the decimal is too large. -/
def nearestFloat? (decimal : Decimal) : Option Float :=
  let leading := ((Nat.toDigits 10 decimal.digits).length : Int) + decimal.exponent
  if decimal.digits = 0 ∨ leading < -placeLimit then some 0
  else if placeLimit < leading then none
  else
    let magnitude :=
      Float.ofScientific decimal.digits (decimal.exponent < 0) decimal.exponent.natAbs
    if magnitude.isInf then none else some magnitude

end SheetLint.Decimal
