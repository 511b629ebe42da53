/-
This file reads TOML into statements: headers and pairs of a key and a value.
-/

import SheetLint.Text.Measure
import SheetLint.Toml.Scalar
import SheetLint.Toml.Table

namespace SheetLint.Toml

open SheetLint.Text

/-- This is the result of reading: a value and the text behind it, unless the text is not TOML. -/
abbrev Reading (Result : Type) := Option (Result × List Char)

/-- This is the stretch between two places of reading. -/
def spanBetween (start stop : List Char) : Span :=
  ⟨Text.byteCount start, Text.byteCount stop⟩

def isGap (character : Char) : Bool :=
  character == ' ' || character == '\t'

def skipGaps (text : List Char) : List Char :=
  text.dropWhile isGap

/-- This test holds for the characters that a comment or a string may hold on one line. -/
def isInLine (character : Char) : Bool :=
  character == '\t' || (0x20 ≤ character.toNat && character != '\u007f')

/-- This function takes a line break off a text. -/
def takeBreak? : List Char → Option (List Char)
  | '\n' :: rest => some rest
  | '\u000d' :: '\n' :: rest => some rest
  | _ => none

/-- This function takes a comment up to its line break. -/
def skipComment : List Char → List Char
  | '#' :: rest => rest.dropWhile isInLine
  | text => text

/-- This function takes the end of a line: gaps, a comment and the break or the end of the text. -/
def endLine? (text : List Char) : Option (List Char) :=
  match skipComment (skipGaps text) with
  | [] => some []
  | rest => takeBreak? rest

/-- This function skips gaps, comments and line breaks inside brackets. -/
def skipLines : Nat → List Char → List Char
  | 0, text => text
  | fuel + 1, text =>
      let rest := skipComment (skipGaps text)
      match takeBreak? rest with
      | some later => skipLines fuel later
      | none => rest

def skipSpace (text : List Char) : List Char :=
  skipLines (text.length + 1) text

/-- This function reads a character by its number in hexadecimal digits. -/
def takeCode? (count : Nat) (text : List Char) : Reading Char :=
  let digits := text.take count
  if digits.length = count ∧ digits.all isHexDigit then
    let code := ofDigits 16 digits
    if code < 0xD800 ∨ (0xDFFF < code ∧ code ≤ 0x10FFFF) then
      some (Char.ofNat code, text.drop count)
    else none
  else none

/-- This function reads an escape sequence behind its backslash. -/
def takeEscape? : List Char → Reading Char
  | 'b' :: rest => some ('\u0008', rest)
  | 't' :: rest => some ('\t', rest)
  | 'n' :: rest => some ('\n', rest)
  | 'f' :: rest => some ('\u000c', rest)
  | 'r' :: rest => some ('\u000d', rest)
  | 'e' :: rest => some ('\u001b', rest)
  | '"' :: rest => some ('"', rest)
  | '\\' :: rest => some ('\\', rest)
  | 'x' :: rest => takeCode? 2 rest
  | 'u' :: rest => takeCode? 4 rest
  | 'U' :: rest => takeCode? 8 rest
  | _ => none

/-- This function reads a string on one line behind its opening double quote. -/
def takeBasic : Nat → List Char → List Char → Reading String
  | 0, _, _ => none
  | _ + 1, _, [] => none
  | _ + 1, decoded, '"' :: rest => some (String.ofList decoded.reverse, rest)
  | fuel + 1, decoded, '\\' :: rest =>
      match takeEscape? rest with
      | some (character, left) => takeBasic fuel (character :: decoded) left
      | none => none
  | fuel + 1, decoded, character :: rest =>
      if isInLine character then takeBasic fuel (character :: decoded) rest else none

/-- This function reads a string on one line behind its opening single quote. -/
def takeLiteral (text : List Char) : Reading String :=
  let content := text.takeWhile fun character => isInLine character && character != '\''
  match text.drop content.length with
  | '\'' :: rest => some (String.ofList content, rest)
  | _ => none

/-- This function ends a string of several lines behind its closing quotes: up to two more quotes
belong to the string. -/
def closeLong (quote : Char) (decoded : List Char) (text : List Char) : String × List Char :=
  let extra := min 2 (text.takeWhile (· == quote)).length
  (String.ofList (decoded.reverse ++ List.replicate extra quote), text.drop extra)

/-- This function reads a string of several lines with escapes. A backslash at the end of a line
swallows the break and the gaps behind it. -/
def takeLongBasic : Nat → List Char → List Char → Reading String
  | 0, _, _ => none
  | _ + 1, _, [] => none
  | _ + 1, decoded, '"' :: '"' :: '"' :: rest => some (closeLong '"' decoded rest)
  | fuel + 1, decoded, '\\' :: rest =>
      match takeBreak? (skipGaps rest) with
      | some later =>
          takeLongBasic fuel decoded (later.dropWhile fun character =>
            isGap character || character == '\n' || character == '\u000d')
      | none =>
          match takeEscape? rest with
          | some (character, left) => takeLongBasic fuel (character :: decoded) left
          | none => none
  | fuel + 1, decoded, '\u000d' :: '\n' :: rest =>
      takeLongBasic fuel ('\n' :: '\u000d' :: decoded) rest
  | fuel + 1, decoded, character :: rest =>
      if isInLine character || character == '\n' then
        takeLongBasic fuel (character :: decoded) rest
      else none

/-- This function reads a string of several lines as it stands. -/
def takeLongLiteral : Nat → List Char → List Char → Reading String
  | 0, _, _ => none
  | _ + 1, _, [] => none
  | _ + 1, decoded, '\'' :: '\'' :: '\'' :: rest => some (closeLong '\'' decoded rest)
  | fuel + 1, decoded, '\u000d' :: '\n' :: rest =>
      takeLongLiteral fuel ('\n' :: '\u000d' :: decoded) rest
  | fuel + 1, decoded, character :: rest =>
      if isInLine character || character == '\n' then
        takeLongLiteral fuel (character :: decoded) rest
      else none

/-- A break right behind the opening quotes does not belong to the string. -/
def dropFirstBreak (text : List Char) : List Char :=
  (takeBreak? text).getD text

/-- This function reads a string in any of the four forms. -/
def takeString? (text : List Char) : Reading String :=
  match text with
  | '"' :: '"' :: '"' :: rest => takeLongBasic (rest.length + 1) [] (dropFirstBreak rest)
  | '\'' :: '\'' :: '\'' :: rest => takeLongLiteral (rest.length + 1) [] (dropFirstBreak rest)
  | '"' :: rest => takeBasic (rest.length + 1) [] rest
  | '\'' :: rest => takeLiteral rest
  | _ => none

def isBare (character : Char) : Bool :=
  isDigit character || ('a' ≤ character && character ≤ 'z') ||
    ('A' ≤ character && character ≤ 'Z') || character == '_' || character == '-'

/-- This function reads one part of a key. -/
def takeKey? (text : List Char) : Reading Key :=
  match text with
  | '"' :: rest =>
      (takeBasic (rest.length + 1) [] rest).map fun (name, left) =>
        (⟨name, spanBetween text left⟩, left)
  | '\'' :: rest =>
      (takeLiteral rest).map fun (name, left) => (⟨name, spanBetween text left⟩, left)
  | _ =>
      let name := text.takeWhile isBare
      if name.isEmpty then none
      else
        let left := text.drop name.length
        some (⟨String.ofList name, spanBetween text left⟩, left)

/-- This function reads a key with its dots; gaps around everything are skipped. -/
def takePath : Nat → List Char → Reading (List Key)
  | 0, _ => none
  | fuel + 1, text =>
      match takeKey? (skipGaps text) with
      | none => none
      | some (key, rest) =>
          match skipGaps rest with
          | '.' :: later => (takePath fuel later).map fun (path, left) => (key :: path, left)
          | other => some ([key], other)

def takePath? (text : List Char) : Reading (List Key) :=
  takePath (text.length + 1) text

/-- This test holds for the characters of a value without quotes. -/
def isUnquoted (character : Char) : Bool :=
  isBare character || character == '+' || character == '.' || character == ':'

/-- This function takes a value without quotes; a date may be followed by a gap and a time. -/
def takeUnquoted (text : List Char) : List Char × List Char :=
  let first := text.takeWhile isUnquoted
  match text.drop first.length with
  | ' ' :: next :: rest =>
      if takeDate? first == some [] && isDigit next then
        let second := (next :: rest).takeWhile isUnquoted
        (first ++ ' ' :: second, (next :: rest).drop second.length)
      else (first, ' ' :: next :: rest)
  | rest => (first, rest)

/-- This function reads the items of a list behind its bracket. -/
def takeItems (takeValue : List Char → Reading (Span × Value)) :
    Nat → List (Span × Value) → List Char → Reading (List (Span × Value))
  | 0, _, _ => none
  | fuel + 1, items, text =>
      match skipSpace text with
      | ']' :: rest => some (items.reverse, rest)
      | next =>
          match takeValue next with
          | none => none
          | some (item, left) =>
              match skipSpace left with
              | ',' :: rest => takeItems takeValue fuel (item :: items) rest
              | ']' :: rest => some ((item :: items).reverse, rest)
              | _ => none

/-- This function reads a key, an equals sign and a value. -/
def takePair? (takeValue : List Char → Reading (Span × Value)) (text : List Char) :
    Reading (List Key × Span × Value) :=
  match takePath? text with
  | some (path, '=' :: rest) =>
      (takeValue (skipGaps rest)).map fun (value, left) => ((path, value.1, value.2), left)
  | _ => none

/-- This function reads the entries of a table behind its brace. -/
def takeEntries (takeValue : List Char → Reading (Span × Value)) :
    Nat → Entries → List Char → Reading Entries
  | 0, _, _ => none
  | fuel + 1, entries, text =>
      match skipSpace text with
      | '\u007d' :: rest => some (entries, rest)
      | next =>
          match takePair? takeValue next with
          | none => none
          | some ((path, span, value), left) =>
              match insertPair path span value .inline entries with
              | none => none
              | some entries =>
                  match skipSpace left with
                  | ',' :: rest => takeEntries takeValue fuel entries rest
                  | '\u007d' :: rest => some (entries, rest)
                  | _ => none

/-- This function reads the rest of a value; the first argument reads values inside brackets. -/
def takeValueBy (takeInner : List Char → Reading (Span × Value)) (text : List Char) :
    Reading (Span × Value) :=
  let spanned (read : Reading Value) : Reading (Span × Value) :=
    read.map fun (value, left) => ((spanBetween text left, value), left)
  match text with
  | '[' :: rest =>
      spanned ((takeItems takeInner (rest.length + 1) [] rest).map fun (items, left) =>
        (.list items, left))
  | '\u007b' :: rest =>
      spanned ((takeEntries takeInner (rest.length + 1) [] rest).map fun (entries, left) =>
        (.table .inline entries, left))
  | '"' :: _ => spanned ((takeString? text).map fun (value, left) => (.scalar (.text value), left))
  | '\'' :: _ => spanned ((takeString? text).map fun (value, left) => (.scalar (.text value), left))
  | _ =>
      let (token, left) := takeUnquoted text
      spanned ((parseScalar? token).map fun scalar => (.scalar scalar, left))

/-- This function reads a value with at most that many brackets around one another. -/
def takeValue : Nat → List Char → Reading (Span × Value)
  | 0, _ => none
  | depth + 1, text => takeValueBy (takeValue depth) text

/-- This is the number of brackets that may be open at once. -/
def depthLimit : Nat := 80

inductive Statement where
  | header (path : List Key) (span : Span)
  | arrayHeader (path : List Key) (span : Span)
  | pair (path : List Key) (span : Span) (value : Value)

/-- This function reads a header or a pair at the start of a line. -/
def takeStatement? (text : List Char) : Reading Statement :=
  match text with
  | '[' :: '[' :: rest =>
      match takePath? rest with
      | some (path, ']' :: ']' :: left) => some (.arrayHeader path (spanBetween text left), left)
      | _ => none
  | '[' :: rest =>
      match takePath? rest with
      | some (path, ']' :: left) => some (.header path (spanBetween text left), left)
      | _ => none
  | _ =>
      (takePair? (takeValue (depthLimit + 1)) text).map fun ((path, span, value), left) =>
        (.pair path span value, left)

/-- This function reads the statements of a text, one a line. -/
def takeStatements : Nat → List Char → Option (List Statement)
  | 0, _ => none
  | fuel + 1, text =>
      match endLine? text with
      | some [] => some []
      | some later => takeStatements fuel later
      | none =>
          match takeStatement? (skipGaps text) with
          | none => none
          | some (statement, left) =>
              match endLine? left with
              | none => none
              | some later => (takeStatements fuel later).map (statement :: ·)

/-- This function puts one statement into the document; the path is that of the last header. -/
def Statement.apply (statement : Statement) (state : List Key × Entries) :
    Option (List Key × Entries) :=
  match statement with
  | .header path span => (insertHeader path span state.2).map fun entries => (path, entries)
  | .arrayHeader path span =>
      (insertArrayHeader path span state.2).map fun entries => (path, entries)
  | .pair path span value =>
      (descend false (fun _ entries =>
        (insertPair path span value .header entries).map fun entries => (.header, entries))
        state.1 .header state.2).map fun result => (state.1, result.2)

/-- This is the document that a text describes. A byte order mark may stand in front. -/
def read? (text : List Char) : Option Entries :=
  let content := if text.head? == some '\ufeff' then text.drop 1 else text
  match takeStatements (content.length + 1) content with
  | none => none
  | some statements =>
      (statements.foldlM (fun state (statement : Statement) => statement.apply state)
        (([], []) : List Key × Entries)).map Prod.snd

end SheetLint.Toml
