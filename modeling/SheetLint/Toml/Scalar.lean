/-
This file reads the values of TOML that stand without quotes: booleans, numbers and moments.
-/

import SheetLint.Decimal.Nearest
import SheetLint.Text.Blank
import SheetLint.Text.Digits
import SheetLint.Toml.Value

namespace SheetLint.Toml

open SheetLint.Text

/-- This function takes the underscores out of digits; each must stand between two digits. -/
def plainDigits? (isMember : Char → Bool) (text : List Char) : Option (List Char) :=
  let groups := cut (· == '_') text
  if groups.all fun group => !group.isEmpty && group.all isMember then some groups.flatten
  else none

/-- These are decimal digits without a zero in front. -/
def wholeDigits? (text : List Char) : Option (List Char) :=
  match plainDigits? isDigit text with
  | some ('0' :: _ :: _) => none
  | digits => digits

def parseInteger? (text : List Char) : Option Int :=
  match text with
  | '0' :: 'x' :: rest => (plainDigits? isHexDigit rest).map fun digits => ofDigits 16 digits
  | '0' :: 'o' :: rest =>
      (plainDigits? isOctalDigit rest).map fun digits => ofDigits 8 digits
  | '0' :: 'b' :: rest =>
      (plainDigits? isBinaryDigit rest).map fun digits => ofDigits 2 digits
  | _ =>
      let (negative, rest) := splitSign text
      (wholeDigits? rest).map fun digits =>
        if negative then -(ofDigits 10 digits : Int) else ofDigits 10 digits

/-- This is a decimal as a floating point number. -/
def floatOf (negative : Bool) (digits : List Char) (exponent : Int) : Scalar :=
  match Decimal.nearestFloat? ⟨ofDigits 10 digits, exponent⟩ with
  | none => .overflow
  | some magnitude => .floating (if negative then -magnitude else magnitude)

def parseExponent? (text : List Char) : Option Int :=
  let (negative, rest) := splitSign text
  (plainDigits? isDigit rest).map fun digits =>
    if negative then -(ofDigits 10 digits : Int) else ofDigits 10 digits

def parseFloat? (text : List Char) : Option Scalar :=
  let (negative, unsigned) := splitSign text
  if unsigned == ['i', 'n', 'f'] then
    some (.floating (if negative then -(1 / 0) else 1 / 0))
  else if unsigned == ['n', 'a', 'n'] then some (.floating (0 / 0))
  else
    let (mantissa, exponent) := splitWhere (fun character => character == 'e' || character == 'E')
      unsigned
    let (whole, fraction) := splitWhere (· == '.') mantissa
    if exponent.isNone && fraction.isNone then none
    else do
      let wholeDigits ← wholeDigits? whole
      let fractionDigits ← match fraction with
        | none => some []
        | some digits => plainDigits? isDigit digits
      let power ← match exponent with
        | none => some 0
        | some digits => parseExponent? digits
      return floatOf negative (wholeDigits ++ fractionDigits) (power - fractionDigits.length)

/-- This function reads a number of exactly that many digits within bounds. -/
def takeNumber? (count least greatest : Nat) (text : List Char) : Option (Nat × List Char) :=
  let digits := text.take count
  if digits.length = count ∧ digits.all isDigit then
    let number := ofDigits 10 digits
    if least ≤ number ∧ number ≤ greatest then some (number, text.drop count) else none
  else none

def isLeapYear (year : Nat) : Bool :=
  year % 4 == 0 && (year % 100 != 0 || year % 400 == 0)

def daysIn (year month : Nat) : Nat :=
  if month == 2 then (if isLeapYear year then 29 else 28)
  else if month == 4 || month == 6 || month == 9 || month == 11 then 30
  else 31

/-- This function takes a date off a text. -/
def takeDate? (text : List Char) : Option (List Char) := do
  let (year, rest) ← takeNumber? 4 0 9999 text
  let rest ← if rest.head? == some '-' then some (rest.drop 1) else none
  let (month, rest) ← takeNumber? 2 1 12 rest
  let rest ← if rest.head? == some '-' then some (rest.drop 1) else none
  let (_, rest) ← takeNumber? 2 1 (daysIn year month) rest
  return rest

/-- This function takes the fraction of a second off a text, where there is one. -/
def takeFraction? : List Char → Option (List Char)
  | '.' :: digit :: rest => if isDigit digit then some (rest.dropWhile isDigit) else none
  | '.' :: [] => none
  | text => some text

/-- This function takes a time of day off a text; seconds and their fraction may be left out. -/
def takeTime? (text : List Char) : Option (List Char) := do
  let (_, rest) ← takeNumber? 2 0 23 text
  let rest ← if rest.head? == some ':' then some (rest.drop 1) else none
  let (_, rest) ← takeNumber? 2 0 59 rest
  if rest.head? == some ':' then
    let (_, rest) ← takeNumber? 2 0 60 (rest.drop 1)
    takeFraction? rest
  else some rest

/-- This test holds for the distance of a local time from universal time, or for none. -/
def isOffset : List Char → Bool
  | [] => true
  | ['Z'] => true
  | ['z'] => true
  | sign :: rest =>
      (sign == '+' || sign == '-') &&
        match takeNumber? 2 0 23 rest with
        | some (_, ':' :: rest) => (takeNumber? 2 0 59 rest).map Prod.snd == some []
        | _ => false

def isMoment (text : List Char) : Bool :=
  match takeDate? text with
  | some [] => true
  | some (separator :: rest) =>
      (separator == 'T' || separator == 't' || separator == ' ') &&
        match takeTime? rest with
        | some offset => isOffset offset
        | none => false
  | none => takeTime? text == some []

/-- This is the value that a text without quotes stands for. -/
def parseScalar? (text : List Char) : Option Scalar :=
  if text == ['t', 'r', 'u', 'e'] then some (.boolean true)
  else if text == ['f', 'a', 'l', 's', 'e'] then some (.boolean false)
  else if isMoment text then some .moment
  else
    match parseInteger? text with
    | some value => some (.integer value)
    | none => parseFloat? text

end SheetLint.Toml
