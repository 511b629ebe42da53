/-
This file holds the digits of numbers in any base up to sixteen.
-/

namespace SheetLint.Text

def isDigit (character : Char) : Bool :=
  '0' ≤ character && character ≤ '9'

def isOctalDigit (character : Char) : Bool :=
  '0' ≤ character && character ≤ '7'

def isBinaryDigit (character : Char) : Bool :=
  character == '0' || character == '1'

def isHexDigit (character : Char) : Bool :=
  isDigit character || ('a' ≤ character && character ≤ 'f') ||
    ('A' ≤ character && character ≤ 'F')

/-- This is the value of a digit. -/
def digitValue (character : Char) : Nat :=
  if isDigit character then character.toNat - 48
  else if 'a' ≤ character then character.toNat - 87
  else character.toNat - 55

/-- This is the number that digits stand for in a base. -/
def ofDigits (base : Nat) (digits : List Char) : Nat :=
  digits.foldl (fun number digit => number * base + digitValue digit) 0

/-- This function takes the sign off a text and tells whether it was a minus. -/
def splitSign : List Char → Bool × List Char
  | '+' :: rest => (false, rest)
  | '-' :: rest => (true, rest)
  | text => (false, text)

/-- This function cuts a text at the first character that passes. -/
def splitWhere (passes : Char → Bool) (text : List Char) : List Char × Option (List Char) :=
  match text.dropWhile fun character => !passes character with
  | [] => (text, none)
  | _ :: rest => (text.takeWhile fun character => !passes character, some rest)

theorem ofDigits_append_singleton (base : Nat) (digits : List Char) (digit : Char) :
    ofDigits base (digits ++ [digit]) = ofDigits base digits * base + digitValue digit := by
  simp [ofDigits]

theorem digitValue_lt_ten {character : Char} (digit : isDigit character = true) :
    digitValue character < 10 := by
  have bound : character ≤ '9' := by
    simp only [isDigit, Bool.and_eq_true, decide_eq_true_eq] at digit
    exact digit.2
  have nat : character.toNat ≤ 57 := bound
  rw [digitValue, if_pos digit]
  omega

end SheetLint.Text
