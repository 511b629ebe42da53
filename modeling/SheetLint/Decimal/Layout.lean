/-
This file writes a decimal as text. The layout is a record, so each format states its own.
-/

import SheetLint.Decimal.Shortest

namespace SheetLint.Decimal

/-- These are the decisions of a format about decimal numbers: numbers whose leading digit stands
at an exponent between the two bounds are written positionally, the others with an exponent. -/
structure Layout where
  leastPositional : Int
  greatestPositional : Int

/-- This is the number with its digits in place and at least one digit after the point. -/
def positional (decimal : Decimal) : List Char :=
  let digits := Nat.toDigits 10 decimal.digits
  let whole := (digits.length : Int) + decimal.exponent
  if whole ≤ 0 then ['0', '.'] ++ List.replicate (-whole).toNat '0' ++ digits
  else if 0 ≤ decimal.exponent then
    digits ++ List.replicate decimal.exponent.toNat '0' ++ ['.', '0']
  else digits.take whole.toNat ++ ['.'] ++ digits.drop whole.toNat

/-- This is the number with one digit before the point and a signed exponent. -/
def exponential (decimal : Decimal) : List Char :=
  let digits := Nat.toDigits 10 decimal.digits
  let leading := (digits.length : Int) - 1 + decimal.exponent
  let fraction := match digits.drop 1 with
    | [] => []
    | later => '.' :: later
  let sign := if leading < 0 then '-' else '+'
  digits.take 1 ++ fraction ++ ['e', sign] ++ Nat.toDigits 10 leading.natAbs

/-- This is the text of a decimal in a layout. -/
def Layout.write (layout : Layout) (decimal : Decimal) : List Char :=
  let leading := ((Nat.toDigits 10 decimal.digits).length : Int) - 1 + decimal.exponent
  if decimal.digits = 0 then ['0', '.', '0']
  else if layout.leastPositional ≤ leading ∧ leading ≤ layout.greatestPositional then
    positional decimal
  else exponential decimal

/-- This is the text of a floating point number: its shortest decimal behind its sign. -/
def Layout.writeFloat (layout : Layout) (number : Float) : String :=
  if number.isNaN then "NaN"
  else
    let bits := number.toBits.toNat
    let sign := if Nat.pow 2 63 ≤ bits then ['-'] else []
    if number.isInf then String.ofList (sign ++ ['i', 'n', 'f'])
    else String.ofList (sign ++ layout.write (shortestOfBits bits))

end SheetLint.Decimal
