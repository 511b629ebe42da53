/-
This file cuts a YAML text into tokens. Blocks get a start and an end from their indentation, and
a key is recognised by the colon behind it.
-/

import SheetLint.Yaml.Scalar

namespace SheetLint.Yaml

open SheetLint.Text

inductive Symbol where
  | version (major minor : Nat)
  | tagDirective (handle start : String)
  | documentStart
  | documentEnd
  | streamEnd
  | blockList
  | blockMapping
  | blockEnd
  | openList
  | closeList
  | openMapping
  | closeMapping
  | dash
  | comma
  | key
  | value
  | anchor (name : String)
  | alias (name : String)
  | tag (handle suffix : String)
  | scalar (plain : Bool) (text : String)
  deriving DecidableEq, Repr

structure Token where
  symbol : Symbol
  mark : Mark
  deriving DecidableEq, Repr

/-- This is a place where a key may have started: the number of its first token and its place in
the text. A required one must turn out to be a key. -/
structure KeyStart where
  place : Nat
  mark : Mark
  required : Bool

/-- This is the state of cutting: what is left, the indentation of the open blocks, the possible
key of every open bracket, whether a key may start here, and the tokens so far. -/
structure Scanner where
  cursor : Cursor
  indent : Int
  outer : List Int
  keys : List (Option KeyStart)
  keyAllowed : Bool
  tokens : List Token

namespace Scanner

/-- A byte order mark at the start is skipped, but it counts as a character of the line. -/
def start (text : List Char) : Scanner :=
  let cursor : Cursor := ⟨text, ⟨0, 0, 0⟩⟩
  ⟨if cursor.isAt '\ufeff' then cursor.advance else cursor, -1, [], [none], true, []⟩

/-- This test holds inside brackets. -/
def inFlow (scanner : Scanner) : Bool :=
  1 < scanner.keys.length

def mark (scanner : Scanner) : Mark :=
  scanner.cursor.mark

def push (scanner : Scanner) (symbol : Symbol) (mark : Mark) : Scanner :=
  { scanner with tokens := scanner.tokens ++ [⟨symbol, mark⟩] }

/-- This function puts a token before the one with a number. -/
def insertAt (scanner : Scanner) (place : Nat) (symbol : Symbol) (mark : Mark) : Scanner :=
  { scanner with
    tokens := scanner.tokens.take place ++ ⟨symbol, mark⟩ :: scanner.tokens.drop place }

/-- This function opens a block when a column lies farther in than the block so far. -/
def openBlock (scanner : Scanner) (column place : Nat) (symbol : Symbol) (mark : Mark) : Scanner :=
  if !scanner.inFlow && scanner.indent < column then
    { scanner.insertAt place symbol mark with
      indent := column
      outer := scanner.indent :: scanner.outer }
  else scanner

/-- This function closes the blocks that lie farther in than a column. -/
def closeBlocks (column : Int) : List Int → Scanner → Scanner
  | [], scanner => scanner
  | indent :: outer, scanner =>
      if column < scanner.indent then
        closeBlocks column outer
          { scanner.push .blockEnd scanner.mark with indent, outer }
      else scanner

def unroll (scanner : Scanner) (column : Int) : Scanner :=
  if scanner.inFlow then scanner else closeBlocks column scanner.outer scanner

/-- This function gives up the possible key of the innermost bracket; a required one must not be
given up. -/
def dropKey? (scanner : Scanner) : Option Scanner :=
  match scanner.keys with
  | some key :: outer =>
      if key.required then none else some { scanner with keys := none :: outer }
  | _ => some scanner

/-- This function remembers that a key may start here. -/
def saveKey? (scanner : Scanner) : Option Scanner :=
  if scanner.keyAllowed then do
    let scanner ← scanner.dropKey?
    let key : KeyStart := ⟨scanner.tokens.length, scanner.mark,
      !scanner.inFlow && scanner.indent == (scanner.mark.column : Int)⟩
    some { scanner with keys := some key :: scanner.keys.drop 1 }
  else some scanner

/-- A key must lie on one line and have at most 1024 characters. -/
def isStale (mark : Mark) (key : KeyStart) : Bool :=
  key.mark.line < mark.line || key.mark.index + 1024 < mark.index

/-- This function gives up all possible keys that have become too long. -/
def dropStaleKeys? (scanner : Scanner) : Option Scanner :=
  let stale (key : Option KeyStart) : Bool := (key.map (isStale scanner.mark)).getD false
  if scanner.keys.any fun key => stale key && ((key.map KeyStart.required).getD false) then none
  else some { scanner with keys := scanner.keys.map fun key => if stale key then none else key }

/-- This function goes over gaps, comments and line breaks. A tab is a gap only where no key may
start. -/
def skipToToken : Nat → Scanner → Scanner
  | 0, scanner => scanner
  | fuel + 1, scanner =>
      let tabs := scanner.inFlow || !scanner.keyAllowed
      let cursor := (scanner.cursor.skipWhile fun character =>
        character == ' ' || (tabs && character == '\t')).skipComment
      if cursor.breakAt 0 then
        skipToToken fuel { scanner with
          cursor := cursor.takeBreak.2
          keyAllowed := scanner.keyAllowed || !scanner.inFlow }
      else { scanner with cursor }

/-- This function takes a token of some characters. -/
def take (scanner : Scanner) (symbol : Symbol) (count : Nat) : Scanner :=
  { scanner.push symbol scanner.mark with cursor := scanner.cursor.advanceBy count }

def isWord (character : Char) : Bool :=
  ('0' ≤ character && character ≤ '9') || ('a' ≤ character && character ≤ 'z') ||
    ('A' ≤ character && character ≤ 'Z') || character == '_' || character == '-'

/-- This test holds for the characters of a tag. -/
def isTagCharacter (character : Char) : Bool :=
  isWord character || ";/?:@&=+$.%!~*'()".toList.contains character

/-- This function replaces the escapes of a tag, which are percent signs and two digits. -/
def decodeTag : Nat → List Char → Option (List UInt8)
  | 0, _ => none
  | _ + 1, [] => some []
  | fuel + 1, '%' :: first :: second :: rest =>
      if isHexDigit first && isHexDigit second then
        (decodeTag fuel rest).map
          ((digitValue first * 16 + digitValue second).toUInt8 :: ·)
      else none
  | _ + 1, '%' :: _ => none
  | fuel + 1, character :: rest =>
      (decodeTag fuel rest).map (character.toNat.toUInt8 :: ·)

def tagText? (text : List Char) : Option String :=
  (decodeTag (text.length + 1) text).bind fun bytes =>
    String.fromUTF8? ⟨bytes.toArray⟩

/-- This function takes a handle of a tag: exclamation marks around letters. -/
def takeHandle? (cursor : Cursor) : Option (List Char × Cursor) :=
  if cursor.isAt '!' then
    let name := cursor.advance.textWhile isWord
    let after := cursor.advanceBy (name.length + 1)
    if after.isAt '!' then some ('!' :: name ++ ['!'], after.advance)
    else some ('!' :: name, after)
  else none

/-- This function reads a tag. -/
def takeTag? (scanner : Scanner) : Option Scanner := do
  let cursor := scanner.cursor
  let (symbol, after) ←
    if cursor.peekAt 1 == some '<' then
      let inside := cursor.advanceBy 2
      let text := inside.textWhile fun character =>
        isTagCharacter character || character == ',' || character == '[' || character == ']'
      let after := inside.advanceBy text.length
      if text.isEmpty || !after.isAt '>' then none
      else (tagText? text).map fun suffix => (Symbol.tag "" suffix, after.advance)
    else do
      let (handle, after) ← takeHandle? cursor
      let rest := after.textWhile isTagCharacter
      let later := after.advanceBy rest.length
      if 1 < handle.length && handle.getLast? == some '!' then
        if rest.isEmpty then none
        else (tagText? rest).map fun suffix =>
          (Symbol.tag (String.ofList handle) suffix, later)
      else
        let whole := handle.drop 1 ++ rest
        if whole.isEmpty then some (Symbol.tag "" "!", later)
        else (tagText? whole).map fun suffix => (Symbol.tag "!" suffix, later)
  if after.blankAt 0 || (scanner.inFlow && after.isAt ',') then
    some { scanner.push symbol scanner.mark with cursor := after }
  else none

/-- This function reads the name of an anchor or of an alias. -/
def takeName? (scanner : Scanner) (symbol : String → Symbol) : Option Scanner :=
  let name := scanner.cursor.advance.textWhile isWord
  let after := scanner.cursor.advanceBy (name.length + 1)
  let ends := after.blankAt 0 ||
    (after.peek.map fun character => "?:,]\x7d%@`".toList.contains character).getD false
  if name.isEmpty || !ends then none
  else some { scanner.push (symbol (String.ofList name)) scanner.mark with cursor := after }

/-- This function reads a version number of at most nine digits. -/
def takeVersionNumber? (cursor : Cursor) : Option (Nat × Cursor) :=
  let digits := cursor.textWhile isDigit
  if digits.isEmpty || 9 < digits.length then none
  else some (ofDigits 10 digits,
    cursor.advanceBy digits.length)

/-- This function reads a directive: the version of YAML or the meaning of a handle. -/
def takeDirective? (scanner : Scanner) : Option Scanner := do
  let start := scanner.cursor.advance
  let name := start.textWhile isWord
  let cursor := start.advanceBy name.length
  if name.isEmpty || !cursor.blankAt 0 then none
  else
    let cursor := cursor.skipWhile isGap
    let (symbol, after) ←
      if name == "YAML".toList then do
        let (major, cursor) ← takeVersionNumber? cursor
        if !cursor.isAt '.' then none
        else
          let (minor, cursor) ← takeVersionNumber? cursor.advance
          some (Symbol.version major minor, cursor)
      else if name == "TAG".toList then do
        let (handle, after) ← takeHandle? cursor
        if handle != ['!'] && handle.getLast? != some '!' then none
        else if !after.gapAt 0 then none
        else
          let cursor := after.skipWhile isGap
          let text := cursor.textWhile fun character =>
            isTagCharacter character || character == ',' || character == '[' || character == ']'
          let later := cursor.advanceBy text.length
          let start ← tagText? text
          if text.isEmpty || !later.blankAt 0 then none
          else some (Symbol.tagDirective (String.ofList handle) start, later)
      else none
    let after := (after.skipWhile isGap).skipComment
    if after.atEnd || after.breakAt 0 then
      some { scanner.push symbol scanner.mark with cursor := after.takeBreak.2 }
    else none

/-- This function takes the colon behind a key or in front of a value without one. -/
def takeValueSign? (scanner : Scanner) : Option Scanner :=
  match scanner.keys with
  | some key :: outer =>
      let marked := (scanner.insertAt key.place .key key.mark).openBlock key.mark.column key.place
        .blockMapping key.mark
      some (({ marked with keys := none :: outer, keyAllowed := false }).take .value 1)
  | _ =>
      if scanner.inFlow then some (scanner.take .value 1)
      else if !scanner.keyAllowed then none
      else
        let opened := scanner.openBlock scanner.mark.column scanner.tokens.length .blockMapping
          scanner.mark
        some (({ opened with keyAllowed := true }).take .value 1)

/-- This function takes a dash or a question mark in front of an item or a key. -/
def takeBlockSign? (scanner : Scanner) (block symbol : Symbol) : Option Scanner :=
  if !scanner.inFlow && !scanner.keyAllowed then none
  else do
    let opened := scanner.openBlock scanner.mark.column scanner.tokens.length block scanner.mark
    let dropped ← opened.dropKey?
    let allowed := symbol == .dash || !scanner.inFlow
    some (({ dropped with keyAllowed := allowed }).take symbol 1)

/-- These characters cannot start a plain scalar. -/
def isIndicator (character : Char) : Bool :=
  "-?:,[]\x7b\x7d#&*!|>'\"%@`".toList.contains character

/-- This test holds where a plain scalar can start. -/
def startsPlain (scanner : Scanner) : Bool :=
  let cursor := scanner.cursor
  match cursor.peek with
  | none => false
  | some character =>
      !(cursor.blankAt 0 || isIndicator character) ||
        (character == '-' && !cursor.gapAt 1) ||
        (!scanner.inFlow && (character == '?' || character == ':') && !cursor.blankAt 1)

def takePlainScalar? (scanner : Scanner) : Option Scanner := do
  let saved ← scanner.saveKey?
  let indent := (scanner.indent + 1).toNat
  let (text, broken, cursor) ← takePlain scanner.inFlow indent (scanner.cursor.rest.length + 1)
    Pause.none [] scanner.cursor
  some { saved.push (.scalar true text) scanner.mark with cursor, keyAllowed := broken }

def takeQuotedScalar? (scanner : Scanner) (single : Bool) : Option Scanner := do
  let saved ← scanner.saveKey?
  let bound := scanner.cursor.rest.length + 1
  let (text, cursor) ← takeQuoted single bound [] scanner.cursor.advance
  some { saved.push (.scalar false text) scanner.mark with cursor, keyAllowed := false }

def takeBlockScalar? (scanner : Scanner) (literal : Bool) : Option Scanner := do
  let dropped ← scanner.dropKey?
  let (text, cursor) ← takeBlock? literal scanner.indent scanner.cursor.advance
  some { dropped.push (.scalar false text) scanner.mark with cursor, keyAllowed := true }

def takeOpening? (scanner : Scanner) (symbol : Symbol) : Option Scanner := do
  let saved ← scanner.saveKey?
  some (({ saved with keys := none :: saved.keys, keyAllowed := true }).take symbol 1)

def takeClosing? (scanner : Scanner) (symbol : Symbol) : Option Scanner := do
  let dropped ← scanner.dropKey?
  let keys := if scanner.inFlow then dropped.keys.drop 1 else dropped.keys
  some (({ dropped with keys, keyAllowed := false }).take symbol 1)

/-- This function ends all blocks in front of a directive or a document mark. -/
def leaveDocument? (scanner : Scanner) : Option Scanner := do
  let dropped ← (scanner.unroll (-1)).dropKey?
  some { dropped with keyAllowed := false }

/-- This function takes the next token, whatever it is, from the start of its text. -/
def takeToken? (scanner : Scanner) : Option Scanner :=
  let cursor := scanner.cursor
  match cursor.peek with
  | none => none
  | some character =>
      if cursor.mark.column == 0 && character == '%' then
        scanner.leaveDocument?.bind takeDirective?
      else if cursor.isDocumentMark '-' then
        scanner.leaveDocument?.map fun left => left.take .documentStart 3
      else if cursor.isDocumentMark '.' then
        scanner.leaveDocument?.map fun left => left.take .documentEnd 3
      else if character == '[' then scanner.takeOpening? .openList
      else if character == '\u007b' then scanner.takeOpening? .openMapping
      else if character == ']' then scanner.takeClosing? .closeList
      else if character == '\u007d' then scanner.takeClosing? .closeMapping
      else if character == ',' then
        scanner.dropKey?.map fun dropped => ({ dropped with keyAllowed := true }).take .comma 1
      else if character == '-' && cursor.blankAt 1 then scanner.takeBlockSign? .blockList .dash
      else if character == '?' && (scanner.inFlow || cursor.blankAt 1) then
        scanner.takeBlockSign? .blockMapping .key
      else if character == ':' && (scanner.inFlow || cursor.blankAt 1) then
        scanner.takeValueSign?
      else if character == '*' then
        scanner.saveKey?.bind fun saved =>
          ({ saved with keyAllowed := false }).takeName? Symbol.alias
      else if character == '&' then
        scanner.saveKey?.bind fun saved =>
          ({ saved with keyAllowed := false }).takeName? Symbol.anchor
      else if character == '!' then
        scanner.saveKey?.bind fun saved => ({ saved with keyAllowed := false }).takeTag?
      else if character == '|' && !scanner.inFlow then scanner.takeBlockScalar? true
      else if character == '>' && !scanner.inFlow then scanner.takeBlockScalar? false
      else if character == '\'' then scanner.takeQuotedScalar? true
      else if character == '"' then scanner.takeQuotedScalar? false
      else if scanner.startsPlain then scanner.takePlainScalar?
      else none

/-- This function ends the text: all blocks end, and no required key may be left over. -/
def finish? (scanner : Scanner) : Option (List Token) := do
  let dropped ← (scanner.unroll (-1)).dropKey?
  some (dropped.push .streamEnd scanner.mark).tokens

/-- This function takes all tokens to the end of the text. -/
def run : Nat → Scanner → Option (List Token)
  | 0, _ => none
  | fuel + 1, scanner => do
      let ahead ← (skipToToken (scanner.cursor.rest.length + 1) scanner).dropStaleKeys?
      let ready := ahead.unroll ahead.mark.column
      if ready.cursor.atEnd then ready.finish?
      else
        let next ← ready.takeToken?
        run fuel next

end Scanner

/-- This test holds for the characters that may stand in a YAML text. -/
def isAllowed (character : Char) : Bool :=
  let code := character.toNat
  code == 0x09 || code == 0x0A || code == 0x0D || (0x20 ≤ code && code ≤ 0x7E) ||
    code == 0x85 || (0xA0 ≤ code && code ≤ 0xD7FF) || (0xE000 ≤ code && code ≤ 0xFFFD) ||
    0x10000 ≤ code

/-- These are the tokens of a text, unless it cannot be cut into tokens. -/
def tokens? (text : List Char) : Option (List Token) :=
  if text.all isAllowed then Scanner.run (text.length + 2) (Scanner.start text) else none

end SheetLint.Yaml
