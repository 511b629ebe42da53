/-
This file writes arguments in the ways of the two printing commands.
-/

import SheetLint.Shell.Script
import SheetLint.Text.Digits

namespace SheetLint.Shell

open SheetLint.Text

/-- This is the character that a letter behind a backslash stands for. -/
def escapeOf? : Char → Option Char
  | '\\' => some '\\'
  | 'a' => some '\u0007'
  | 'b' => some '\u0008'
  | 'f' => some '\u000c'
  | 'n' => some '\n'
  | 'r' => some '\u000d'
  | 't' => some '\t'
  | 'v' => some '\u000b'
  | _ => none

/-- This is the byte that octal digits stand for. -/
def octalOctet (digits : Octets) : Char :=
  Char.ofNat (ofDigits 8 digits % 256)

/-- This function takes at most `limit` octal digits off. -/
def takeOctal (limit : Nat) (text : Octets) : Octets × Octets :=
  let digits := (text.take limit).takeWhile isOctalDigit
  (digits, text.drop digits.length)

/-- This function replaces the escapes of an argument. It stops for good behind an escaped letter
c, which the flag tells. A zero may stand before the digits of a number. -/
def unescape : Nat → Octets → Octets × Bool
  | 0, text => (text, false)
  | fuel + 1, text =>
      let goOn (character : Char) (rest : Octets) : Octets × Bool :=
        let (later, stopped) := unescape fuel rest
        (character :: later, stopped)
      match text with
      | [] => ([], false)
      | '\\' :: 'c' :: _ => ([], true)
      | '\\' :: '0' :: rest =>
          let (digits, after) := takeOctal 3 rest
          goOn (octalOctet digits) after
      | '\\' :: letter :: rest =>
          if isOctalDigit letter then
            let (digits, after) := takeOctal 3 (letter :: rest)
            goOn (octalOctet digits) after
          else
            match escapeOf? letter with
            | some character => goOn character rest
            | none => goOn '\\' (letter :: rest)
      | character :: rest => goOn character rest

def unescapeAll (text : Octets) : Octets × Bool :=
  unescape (text.length + 1) text

/-- This is the output of the command that prints its arguments with gaps between them. -/
def echo (arguments : List Octets) : Octets :=
  let (bare, words) := match arguments with
    | ['-', 'n'] :: words => (true, words)
    | words => (false, words)
  let (text, stopped) := unescapeAll ([' '].intercalate words)
  if bare || stopped then text else text ++ ['\n']

/-- This is a conversion in a format: its flags, its width, its precision and its letter. -/
structure Conversion where
  flags : Octets
  width : Nat
  precision : Option Nat
  letter : Char

/-- This function reads a conversion behind its percent sign. -/
def takeConversion? (text : Octets) : Option (Conversion × Octets) :=
  let flags := text.takeWhile fun character => "-+ #0".toList.contains character
  let rest := text.drop flags.length
  let width := rest.takeWhile isDigit
  let rest := rest.drop width.length
  let (precision, rest) := match rest with
    | '.' :: rest =>
        let digits := rest.takeWhile isDigit
        (some (ofDigits 10 digits), rest.drop digits.length)
    | rest => (none, rest)
  match rest with
  | [] => none
  | letter :: rest => some (⟨flags, ofDigits 10 width, precision, letter⟩, rest)

/-- This function fills a text up to the width. -/
def Conversion.pad (conversion : Conversion) (text : Octets) : Octets :=
  let missing := conversion.width - text.length
  if conversion.flags.contains '-' then text ++ List.replicate missing ' '
  else List.replicate missing ' ' ++ text

/-- This function writes a number with its sign and fills it with zeros where that is wanted. -/
def Conversion.writeNumber (conversion : Conversion) (value : Int) : Octets :=
  let sign :=
    if value < 0 then ['-']
    else if conversion.flags.contains '+' then ['+']
    else if conversion.flags.contains ' ' then [' ']
    else []
  let base := match conversion.letter with
    | 'o' => 8
    | 'x' => 16
    | 'X' => 16
    | _ => 10
  let digits := Nat.toDigits base value.natAbs
  let cased := if conversion.letter == 'X' then digits.map Char.toUpper else digits
  let least := match conversion.precision with
    | some precision => precision
    | none =>
        if conversion.flags.contains '0' && !conversion.flags.contains '-' then
          conversion.width - sign.length
        else 0
  conversion.pad (sign ++ List.replicate (least - cased.length) '0' ++ cased)

/-- This is the number that an argument stands for: digits behind a sign, or the code of the
character behind a quote. -/
def numberOf (text : Octets) : Int :=
  match text with
  | '\'' :: character :: _ => character.toNat
  | '"' :: character :: _ => character.toNat
  | _ =>
      let (negative, rest) := splitSign text
      let magnitude : Nat := match rest with
        | '0' :: 'x' :: digits => ofDigits 16 (digits.takeWhile isHexDigit)
        | '0' :: digits => ofDigits 8 (digits.takeWhile isOctalDigit)
        | digits => ofDigits 10 (digits.takeWhile isDigit)
      if negative then -(magnitude : Int) else magnitude

/-- This is the text of an argument under a conversion. The flag tells that printing stops. -/
def Conversion.write? (conversion : Conversion) (argument : Octets) : Option (Octets × Bool) :=
  let cut (text : Octets) : Octets := match conversion.precision with
    | some precision => text.take precision
    | none => text
  match conversion.letter with
  | 's' => some (conversion.pad (cut argument), false)
  | 'c' => some (conversion.pad (argument.take 1), false)
  | 'b' =>
      let (text, stopped) := unescapeAll argument
      some (conversion.pad (cut text), stopped)
  | letter =>
      if "diouxX".toList.contains letter then
        some (conversion.writeNumber (numberOf argument), false)
      else none

/-- This is the result of going through a format once: the output, the arguments that are left,
and whether printing has stopped. -/
structure Printed where
  output : Octets
  left : List Octets
  stopped : Bool

/-- This function goes through a format once. Missing arguments are empty. -/
def printOnce : Nat → Octets → List Octets → Printed
  | 0, _, arguments => ⟨[], arguments, true⟩
  | fuel + 1, format, arguments =>
      let goOn (text rest : Octets) (left : List Octets) : Printed :=
        let printed := printOnce fuel rest left
        { printed with output := text ++ printed.output }
      match format with
      | [] => ⟨[], arguments, false⟩
      | '\\' :: 'c' :: _ => ⟨[], arguments, true⟩
      | '\\' :: letter :: rest =>
          if isOctalDigit letter then
            let (digits, after) := takeOctal 3 (letter :: rest)
            goOn [octalOctet digits] after arguments
          else
            match escapeOf? letter with
            | some character => goOn [character] rest arguments
            | none => goOn ['\\', letter] rest arguments
      | '%' :: '%' :: rest => goOn ['%'] rest arguments
      | '%' :: rest =>
          match takeConversion? rest with
          | none => ⟨[], arguments, true⟩
          | some (conversion, after) =>
              match conversion.write? (arguments.headD []) with
              | none => ⟨[], arguments, true⟩
              | some (text, true) => ⟨text, arguments, true⟩
              | some (text, false) => goOn text after (arguments.drop 1)
      | character :: rest => goOn [character] rest arguments

/-- This function goes through a format as long as arguments are left and used. -/
def printAll : Nat → Octets → List Octets → Octets
  | 0, _, _ => []
  | fuel + 1, format, arguments =>
      let printed := printOnce (format.length + 1) format arguments
      if printed.stopped || printed.left.isEmpty || printed.left.length == arguments.length then
        printed.output
      else printed.output ++ printAll fuel format printed.left

/-- This is the output of the command that prints its arguments in a format. -/
def printFormat (arguments : List Octets) : Octets :=
  let arguments := match arguments with
    | ['-', '-'] :: rest => rest
    | rest => rest
  match arguments with
  | [] => []
  | format :: values => printAll (values.length + 1) format values

end SheetLint.Shell
