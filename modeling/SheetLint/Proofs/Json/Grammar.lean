/-
This file gives the grammar of JSON texts as relations between values and their spellings. A value
may spell one key several times; only `Value.settled` decides which entry counts.
-/

import Mathlib.Data.List.Forall2
import SheetLint.Json.Reader

namespace SheetLint.Json

open SheetLint.Text

/-- A gap is a run of the four characters that may stand between tokens. -/
def Gap (text : List Char) : Prop :=
  ∀ character ∈ text, isGap character = true

/-- Four hexadecimal digits spell a unit of 16 bits. -/
structure SpellsUnit (unit : Nat) (digits : List Char) : Prop where
  four : digits.length = 4
  hexadecimal : ∀ digit ∈ digits, isHexDigit digit = true
  value : ofDigits 16 digits = unit

/-- These are the letters behind a backslash with the characters that they stand for. -/
def escapeLetters : List (Char × Char) :=
  [('"', '"'), ('\\', '\\'), ('/', '/'), ('b', '\u0008'), ('f', '\u000c'), ('n', '\n'),
   ('r', '\u000d'), ('t', '\t')]

/-- These are the spellings of a character inside a string. -/
inductive SpellsCharacter : Char → List Char → Prop where
  | plain {character : Char} (noQuote : character ≠ '"') (noBackslash : character ≠ '\\')
      (visible : 0x20 ≤ character.toNat) : SpellsCharacter character [character]
  | letter {letter character : Char} (known : (letter, character) ∈ escapeLetters) :
      SpellsCharacter character ['\\', letter]
  | unit {character : Char} {digits : List Char} (spelled : SpellsUnit character.toNat digits) :
      SpellsCharacter character ('\\' :: 'u' :: digits)
  | pair {character : Char} {leading trailing : Nat} {first second : List Char}
      (spelledFirst : SpellsUnit leading first) (spelledSecond : SpellsUnit trailing second)
      (isFirst : isLeading leading = true) (isSecond : isTrailing trailing = true)
      (value : character.toNat = 0x10000 + (leading - 0xD800) * 1024 + (trailing - 0xDC00)) :
      SpellsCharacter character ('\\' :: 'u' :: (first ++ '\\' :: 'u' :: second))

/-- A string is spelled character by character between quotes. -/
def SpellsString (value : String) (token : List Char) : Prop :=
  ∃ forms, List.Forall₂ SpellsCharacter value.toList forms ∧
    token = '"' :: (forms.flatten ++ ['"'])

/-- This is the exponent of a number with its mark. -/
structure Exponent where
  capital : Bool
  /-- The sign tells whether the exponent counts upwards. -/
  sign : Option Bool
  digits : List Char
  filled : digits ≠ []
  decimal : ∀ digit ∈ digits, isDigit digit = true

def signText : Option Bool → List Char
  | none => []
  | some true => ['+']
  | some false => ['-']

def Exponent.text (exponent : Exponent) : List Char :=
  (if exponent.capital then 'E' else 'e') :: (signText exponent.sign ++ exponent.digits)

def Exponent.grows (exponent : Exponent) : Bool :=
  exponent.sign != some false

/-- This is the whole number of a sign and a magnitude of 64 bits; zero with a minus and numbers
below the 64 bits with sign are not whole. -/
def wholeNumber (positive : Bool) (magnitude : Nat) : Number :=
  if positive then .whole magnitude
  else if 0 < magnitude ∧ magnitude ≤ Nat.pow 2 63 then .whole (-magnitude)
  else .floating (-Float.ofNat magnitude)

/-- This is a significand that is scaled by a power of ten, unless it grows out of range. -/
def scaledNumber? (positive : Bool) (significand : Nat) (exponent : Int) : Option Number :=
  (scale 8 (Float.ofNat significand) exponent).map fun value =>
    .floating (if positive then value else -value)

/-- This is a significand with the size and the direction of an exponent; sizes beyond the limit
lead to zero or out of range. -/
def poweredNumber? (positive : Bool) (significand : Nat) (start : Int) (grows : Bool)
    (size : Nat) : Option Number :=
  if size < exponentLimit then
    scaledNumber? positive significand (if grows then start + size else start - size)
  else if grows && significand != 0 then none
  else some (.floating (if positive then 0 else -0.0))

/-- This is a significand with the exponent behind it, if there is one. -/
def tailNumber? (positive : Bool) (significand : Nat) (start : Int) :
    Option Exponent → Option Number
  | none => scaledNumber? positive significand start
  | some exponent =>
      poweredNumber? positive significand start exponent.grows (ofDigits 10 exponent.digits)

def exponentText : Option Exponent → List Char
  | none => []
  | some exponent => exponent.text

/-- Without digits there is no point either. -/
def fractionText (digits : List Char) : List Char :=
  if digits = [] then [] else '.' :: digits

/-- This is the spelling of a number. -/
structure Literal where
  positive : Bool
  whole : List Char
  fraction : List Char
  exponent : Option Exponent
  filled : whole ≠ []
  wholeDecimal : ∀ digit ∈ whole, isDigit digit = true
  noLeadingZero : whole.head? = some '0' → whole = ['0']
  fractionDecimal : ∀ digit ∈ fraction, isDigit digit = true

/-- This is the spelling behind the sign. -/
def Literal.body (literal : Literal) : List Char :=
  literal.whole ++ (fractionText literal.fraction ++ exponentText literal.exponent)

def Literal.text (literal : Literal) : List Char :=
  if literal.positive then literal.body else '-' :: literal.body

/-- This is the floating point number of a spelling: the significand keeps the digits that 64 bits
have room for. -/
def Literal.floating? (literal : Literal) : Option Number :=
  let head := takeDigits 0 0 literal.whole
  let tail := takeDigits head.1 0 literal.fraction
  tailNumber? literal.positive tail.1 (head.2.2.length - tail.2.1) literal.exponent

/-- This is the number that is spelled: whole digits that fit 64 bits are taken as they are. -/
def Literal.number? (literal : Literal) : Option Number :=
  if literal.fraction = [] ∧ literal.exponent.isNone ∧
      ofDigits 10 literal.whole < significandLimit then
    some (wholeNumber literal.positive (ofDigits 10 literal.whole))
  else literal.floating?

/-- This is a value in a list or behind a key, with its spelling and the gaps around it. -/
structure Item where
  value : Value
  before : List Char
  token : List Char
  after : List Char
  gapBefore : Gap before
  gapAfter : Gap after

def Item.text (item : Item) : List Char :=
  item.before ++ (item.token ++ item.after)

/-- This is an entry of an object, with its spelling and the gaps around it. -/
structure Entry where
  key : String
  before : List Char
  token : List Char
  after : List Char
  item : Item
  gapBefore : Gap before
  gapAfter : Gap after
  spelled : SpellsString key token

def Entry.text (entry : Entry) : List Char :=
  entry.before ++ (entry.token ++ (entry.after ++ ':' :: entry.item.text))

def Entry.pair (entry : Entry) : String × Value :=
  (entry.key, entry.item.value)

/-- This function puts commas between texts. -/
def separated (texts : List (List Char)) : List Char :=
  [','].intercalate texts

/-- These are the spellings of a value in which at most `depth` brackets are open at once. -/
inductive Spells : Nat → Value → List Char → Prop where
  | null {depth : Nat} : Spells depth .null ['n', 'u', 'l', 'l']
  | yes {depth : Nat} : Spells depth (.boolean true) ['t', 'r', 'u', 'e']
  | no {depth : Nat} : Spells depth (.boolean false) ['f', 'a', 'l', 's', 'e']
  | number {depth : Nat} {number : Number} (literal : Literal)
      (value : literal.number? = some number) : Spells depth (.number number) literal.text
  | text {depth : Nat} {value : String} {token : List Char} (spelled : SpellsString value token) :
      Spells depth (.text value) token
  | sequence {depth : Nat} {gap : List Char} (items : List Item) (isGap : Gap gap)
      (spelled : ∀ item ∈ items, Spells depth item.value item.token) :
      Spells (depth + 1) (.sequence (items.map Item.value))
        ('[' :: (gap ++ (separated (items.map Item.text) ++ [']'])))
  | mapping {depth : Nat} {gap : List Char} (entries : List Entry) (isGap : Gap gap)
      (spelled : ∀ entry ∈ entries, Spells depth entry.item.value entry.item.token) :
      Spells (depth + 1) (.mapping (entries.map Entry.pair))
        ('\u007b' :: (gap ++ (separated (entries.map Entry.text) ++ ['\u007d'])))

/-- A document is one value with gaps around it. Its brackets are not nested too deeply, its numbers
are in range and its surrogates come in pairs. -/
def Document (value : Value) (text : List Char) : Prop :=
  ∃ item : Item, item.value = value ∧ item.text = text ∧ Spells depthLimit value item.token

mutual

/-- This is the value in which every key keeps its first place and its last value. -/
def Value.settled : Value → Value
  | .null => .null
  | .boolean value => .boolean value
  | .number number => .number number
  | .text value => .text value
  | .sequence items => .sequence (settledItems items)
  | .mapping entries => .mapping (settledEntries [] entries)

def settledItems : List Value → List Value
  | [] => []
  | item :: items => item.settled :: settledItems items

def settledEntries (known : List (String × Value)) :
    List (String × Value) → List (String × Value)
  | [] => known
  | (key, value) :: entries => settledEntries (put key value.settled known) entries

end

end SheetLint.Json
