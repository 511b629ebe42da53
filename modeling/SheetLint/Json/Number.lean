/-
This file reads JSON numbers. A number with a point or an exponent is a significand of at most 64
bits scaled by a power of ten in floating point arithmetic.
-/

import SheetLint.Json.Fault
import SheetLint.Json.Value
import SheetLint.Text.Digits

namespace SheetLint.Json

/-- This is the result of reading: a value and the text behind it. -/
abbrev Reading (Result : Type) := Except Fault (Result × List Char)

open SheetLint.Text

/-- These are whole numbers that a significand can hold. -/
def significandLimit : Nat := Nat.pow 2 64

/-- This function takes digits from the text as long as the significand has room for them; the
number is the count of digits taken. -/
def takeDigits (significand : Nat) (taken : Nat) : List Char → Nat × Nat × List Char
  | [] => (significand, taken, [])
  | character :: rest =>
      if isDigit character && significand * 10 + digitValue character < significandLimit then
        takeDigits (significand * 10 + digitValue character) (taken + 1) rest
      else (significand, taken, character :: rest)

/-- This function scales in floating point: powers up to 308 in one step, smaller ones in several.
A number too large for floating point has no result. -/
def scale : Nat → Float → Int → Option Float
  | 0, _, _ => some 0
  | fuel + 1, value, exponent =>
      if exponent.natAbs ≤ 308 then
        let power := Float.ofScientific 1 false exponent.natAbs
        if 0 ≤ exponent then
          if (value * power).isInf then none else some (value * power)
        else some (value / power)
      else if value == 0 then some value
      else if 0 ≤ exponent then none
      else scale fuel (value / Float.ofScientific 1 false 308) (exponent + 308)

/-- This function ends the reading of a number that is not whole. -/
def finishFloat (positive : Bool) (significand : Nat) (exponent : Int) (rest : List Char) :
    Reading Number :=
  match scale 8 (Float.ofNat significand) exponent with
  | none => .error (Fault.before .numberOutOfRange rest)
  | some value => .ok (.floating (if positive then value else -value), rest)

/-- This is the largest exponent that can be written out. -/
def exponentLimit : Nat := Nat.pow 2 31

/-- This function reads the digits of an exponent. An exponent beyond the limit makes the number
zero or puts it out of range. -/
def readExponentDigits (positive : Bool) (significand : Nat) (start : Int) (grows : Bool)
    (exponent : Nat) : List Char → Reading Number
  | [] =>
      finishFloat positive significand
        (if grows then start + exponent else start - exponent) []
  | character :: rest =>
      if isDigit character then
        let larger := exponent * 10 + digitValue character
        if larger < exponentLimit then
          readExponentDigits positive significand start grows larger rest
        else if grows && significand != 0 then .error (Fault.before .numberOutOfRange rest)
        else .ok (.floating (if positive then 0 else -0.0), rest.dropWhile isDigit)
      else
        finishFloat positive significand
          (if grows then start + exponent else start - exponent) (character :: rest)

/-- This function reads the exponent behind its mark. -/
def readExponent (positive : Bool) (significand : Nat) (start : Int) (text : List Char) :
    Reading Number :=
  let signed : Bool × List Char := match text with
    | '+' :: rest => (true, rest)
    | '-' :: rest => (false, rest)
    | other => (true, other)
  match signed.2 with
  | [] => .error (Fault.before .endInValue [])
  | character :: rest =>
      if isDigit character then
        readExponentDigits positive significand start signed.1 (digitValue character) rest
      else .error (Fault.onto .invalidNumber (character :: rest))

/-- This function reads what may follow the digits of a number that is not whole. -/
def readTail (positive : Bool) (significand : Nat) (exponent : Int) : List Char → Reading Number
  | 'e' :: rest => readExponent positive significand exponent rest
  | 'E' :: rest => readExponent positive significand exponent rest
  | rest => finishFloat positive significand exponent rest

/-- This function reads the digits behind the point. Digits for which the significand has no room
are skipped. -/
def readFraction (positive : Bool) (significand : Nat) (start : Int) (text : List Char) :
    Reading Number :=
  let (fuller, taken, rest) := takeDigits significand 0 text
  match rest with
  | [] =>
      if taken = 0 then .error (Fault.before .endInValue [])
      else finishFloat positive fuller (start - taken) []
  | character :: later =>
      if isDigit character then
        readTail positive fuller (start - taken) (later.dropWhile isDigit)
      else if taken = 0 then .error (Fault.onto .invalidNumber (character :: later))
      else readTail positive fuller (start - taken) (character :: later)

/-- This function reads the rest of a number behind its whole digits: either the number is whole,
or its digits went on past the significand, or a point or exponent follows. -/
def readAfterWhole (positive : Bool) (significand : Nat) (text : List Char) : Reading Number :=
  let skipped := (text.takeWhile isDigit).length
  match text.dropWhile isDigit with
  | '.' :: rest => readFraction positive significand skipped rest
  | 'e' :: rest => readExponent positive significand skipped rest
  | 'E' :: rest => readExponent positive significand skipped rest
  | rest =>
      if skipped ≠ 0 then finishFloat positive significand skipped rest
      else if positive then .ok (.whole significand, rest)
      else if 0 < significand ∧ significand ≤ Nat.pow 2 63 then
        .ok (.whole (-significand), rest)
      else .ok (.floating (-Float.ofNat significand), rest)

/-- This function reads a number behind its sign. -/
def readNumber (positive : Bool) : List Char → Reading Number
  | [] => .error (Fault.before .endInValue [])
  | '0' :: rest =>
      match rest with
      | [] => readAfterWhole positive 0 []
      | character :: later =>
          if isDigit character then .error (Fault.onto .invalidNumber (character :: later))
          else readAfterWhole positive 0 (character :: later)
  | character :: rest =>
      if isDigit character then
        let (significand, _, left) := takeDigits (digitValue character) 0 rest
        readAfterWhole positive significand left
      else .error (Fault.onto .invalidNumber (character :: rest))

end SheetLint.Json
