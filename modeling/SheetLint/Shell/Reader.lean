/-
This file reads shell scripts one complete command at a time.
-/

import SheetLint.Shell.Script
import SheetLint.Text.Blank
import SheetLint.Text.Digits

namespace SheetLint.Shell

/-- This is a text behind a line that is still to be read: its last line, whether it is taken as
it stands, and whether tabs in front of its lines are dropped. -/
structure Awaited where
  mark : Octets
  literal : Bool
  dropTabs : Bool

/-- This is the state of reading: what is left of the script, the texts still to be read, those
that were read, and the number of the last line of the script. -/
structure Source where
  rest : Octets
  awaited : List Awaited
  bodies : List Word
  lastLine : Nat

namespace Source

abbrev Step := StateT Source Option

/-- This is a script whose first line has a number. -/
def start (line : Nat) (script : Octets) : Source :=
  ⟨script, [], [], line + script.count '\n'⟩

/-- This is the number of the line that is being read. -/
def line (source : Source) : Nat :=
  source.lastLine - source.rest.count '\n'

def remaining : Step Octets :=
  return (← get).rest

def setRest (rest : Octets) : Step Unit :=
  modify fun source => { source with rest }

def drop (count : Nat) : Step Unit := do
  setRest ((← remaining).drop count)

/-- This test holds where a text comes next. -/
def isNext (text : Octets) : Step Bool :=
  return text.isPrefixOf (← remaining)

/-- This function takes a text off if it comes next. -/
def takeIf (text : Octets) : Step Bool := do
  if ← isNext text then
    drop text.length
    return true
  else return false

def isNameStart (character : Char) : Bool :=
  ('a' ≤ character && character ≤ 'z') || ('A' ≤ character && character ≤ 'Z') ||
    character == '_'

def isNameCharacter (character : Char) : Bool :=
  isNameStart character || Text.isDigit character

/-- These characters end a word unless they are quoted. -/
def isMeta (character : Char) : Bool :=
  " \t\n;&|<>()".toList.contains character

/-- These are the parameters with names of one character that is no letter. -/
def isSpecial (character : Char) : Bool :=
  "@*#?$!-".toList.contains character || Text.isDigit character

/-- This function goes over gaps, line continuations and comments. -/
def skipGaps : Nat → Octets → Octets
  | 0, text => text
  | fuel + 1, text =>
      match text with
      | ' ' :: rest => skipGaps fuel rest
      | '\t' :: rest => skipGaps fuel rest
      | '\\' :: '\n' :: rest => skipGaps fuel rest
      | '#' :: rest => rest.dropWhile (· != '\n')
      | other => other

def toToken : Step Unit := do
  let rest ← remaining
  setRest (skipGaps (rest.length + 1) rest)

/-- This function takes the text before the closing bracket of a script inside a word, which may
hold brackets and quotes of its own. -/
def takeBalanced : Nat → Nat → Octets → Octets → Option (Octets × Octets)
  | 0, _, _, _ => none
  | fuel + 1, depth, taken, text =>
      match text with
      | [] => none
      | '\\' :: character :: rest => takeBalanced fuel depth (character :: '\\' :: taken) rest
      | '\'' :: rest =>
          let inside := rest.takeWhile (· != '\'')
          let after := rest.drop (inside.length + 1)
          takeBalanced fuel depth ('\'' :: inside.reverse ++ '\'' :: taken) after
      | '(' :: rest => takeBalanced fuel (depth + 1) ('(' :: taken) rest
      | ')' :: rest =>
          match depth with
          | 0 => some (taken.reverse, rest)
          | depth + 1 => takeBalanced fuel depth (')' :: taken) rest
      | character :: rest => takeBalanced fuel depth (character :: taken) rest

/-- This function takes the text between doubled brackets, of which one is taken off already. -/
def takeCalculation? (text : Octets) : Option (Octets × Octets) :=
  match text with
  | '(' :: inside =>
      match takeBalanced (inside.length + 1) 0 [] inside with
      | some (content, ')' :: later) => some (content, later)
      | _ => none
  | _ => none

/-- This function takes the text before a closing back quote. -/
def takeBackQuoted : Octets → Octets → Option (Octets × Octets)
  | _, [] => none
  | taken, '\u0060' :: rest => some (taken.reverse, rest)
  | taken, '\\' :: '\u0060' :: rest => takeBackQuoted ('\u0060' :: taken) rest
  | taken, '\\' :: '\\' :: rest => takeBackQuoted ('\\' :: taken) rest
  | taken, '\\' :: '$' :: rest => takeBackQuoted ('$' :: taken) rest
  | taken, character :: rest => takeBackQuoted (character :: taken) rest

/-- This tells how text is read: outside of quotes, inside double quotes, inside the braces of a
parameter, or in a text behind a line. -/
inductive Mode where
  | bare
  | quoted
  | braces (inQuotes : Bool)
  | document
  deriving DecidableEq

def Mode.isQuoted : Mode → Bool
  | .bare => false
  | .quoted => true
  | .braces inQuotes => inQuotes
  | .document => true

/-- This test holds where the text of a mode ends. -/
def Mode.endsAt (mode : Mode) : Octets → Bool
  | [] => true
  | character :: _ =>
      match mode with
      | .bare => isMeta character
      | .quoted => character == '"'
      | .braces _ => character == '\u007d'
      | .document => false

/-- These are the operators inside the braces of a parameter. -/
def takeOperator : Step (Option Expansion) := do
  let emptyToo ← takeIf [':']
  if ← takeIf ['-'] then return some (.orElse emptyToo)
  else if ← takeIf ['='] then return some (.orAssign emptyToo)
  else if ← takeIf ['+'] then return some (.ifGiven emptyToo)
  else if ← takeIf ['?'] then return some (.orStop emptyToo)
  else if emptyToo then failure
  else if ← takeIf ['#', '#'] then return some (.withoutStart true)
  else if ← takeIf ['#'] then return some (.withoutStart false)
  else if ← takeIf ['%', '%'] then return some (.withoutEnd true)
  else if ← takeIf ['%'] then return some (.withoutEnd false)
  else return none

/-- This test holds for the operators whose operand is a pattern. Quotes around the braces do not
reach into it. -/
def takesPattern : Option Expansion → Bool
  | some (.withoutStart _) => true
  | some (.withoutEnd _) => true
  | _ => false

/-- This function takes the name of a parameter off. -/
def takeParameterName (braces : Bool) : Step Octets := do
  match ← remaining with
  | character :: rest =>
      if isNameStart character then
        let name := character :: rest.takeWhile isNameCharacter
        drop name.length
        return name
      else if braces && Text.isDigit character then
        let name := character :: rest.takeWhile Text.isDigit
        drop name.length
        return name
      else if isSpecial character then
        drop 1
        return [character]
      else failure
  | [] => failure

mutual

/-- This function reads parts to the end of a mode. -/
def takeParts : Nat → Mode → Step Word
  | 0, _ => failure
  | fuel + 1, mode => do
      let rest ← remaining
      if mode.endsAt rest then return []
      let quoted := mode.isQuoted
      match rest with
      | '\'' :: after =>
          if quoted then takeLiteral fuel mode
          else
            let inside := after.takeWhile (· != '\'')
            if inside.length = after.length then failure
            setRest (after.drop (inside.length + 1))
            return .text true inside :: (← takeParts fuel mode)
      | '"' :: after =>
          if mode == .document then takeLiteral fuel mode
          else
            setRest after
            let parts ← takeParts fuel .quoted
            unless ← takeIf ['"'] do failure
            let inside := if parts.isEmpty then [Part.text true []] else parts
            return inside ++ (← takeParts fuel mode)
      | '\\' :: '\n' :: after =>
          setRest after
          takeParts fuel mode
      | '\\' :: character :: after =>
          if quoted && !"$`\\".toList.contains character &&
              !(character == '"' && mode != .document) &&
              !(character == '\u007d' && mode == .braces true) then
            takeLiteral fuel mode
          else
            setRest after
            return .text true [character] :: (← takeParts fuel mode)
      | '\u0060' :: after =>
          match takeBackQuoted [] after with
          | none => failure
          | some (script, after) =>
              setRest after
              return .output quoted script :: (← takeParts fuel mode)
      | '$' :: after => takeDollar fuel mode after
      | _ => takeLiteral fuel mode

/-- This function takes one character as it stands, and then further parts. -/
def takeLiteral : Nat → Mode → Step Word
  | 0, _ => failure
  | fuel + 1, mode => do
      match ← remaining with
      | [] => return []
      | character :: after =>
          setRest after
          return .text mode.isQuoted [character] :: (← takeParts fuel mode)

/-- This function reads what follows a dollar sign. -/
def takeDollar : Nat → Mode → Octets → Step Word
  | 0, _, _ => failure
  | fuel + 1, mode, after => do
      let quoted := mode.isQuoted
      match after with
      | '(' :: inside =>
          match takeCalculation? inside with
          | some (content, later) =>
              setRest content
              let parts ← takeParts fuel .document
              setRest later
              return .arithmetic quoted parts :: (← takeParts fuel mode)
          | none =>
              match takeBalanced (inside.length + 1) 0 [] inside with
              | none => failure
              | some (script, later) =>
                  setRest later
                  return .output quoted script :: (← takeParts fuel mode)
      | '\u007b' :: inside =>
          setRest inside
          let counts ← match inside with
            | '#' :: '\u007d' :: _ => pure false
            | '#' :: _ => takeIf ['#']
            | _ => pure false
          let name ← takeParameterName true
          let operator ← if counts then pure none else takeOperator
          let operand ← match operator with
            | none => pure []
            | some _ => takeParts fuel (.braces (quoted && !takesPattern operator))
          unless ← takeIf ['\u007d'] do failure
          let expansion := if counts then .length else operator.getD .value
          return .parameter quoted name expansion operand :: (← takeParts fuel mode)
      | character :: _ =>
          if isNameStart character || isSpecial character then
            setRest after
            let name ← takeParameterName false
            return .parameter quoted name .value [] :: (← takeParts fuel mode)
          else
            setRest after
            return .text quoted ['$'] :: (← takeParts fuel mode)
      | [] =>
          setRest after
          return [.text quoted ['$']]

end

/-- This function joins neighbouring texts that are quoted alike. -/
def joinTexts : Word → Word
  | [] => []
  | .text quoted content :: parts =>
      match joinTexts parts with
      | .text other further :: rest =>
          if quoted == other then .text quoted (content ++ further) :: rest
          else .text quoted content :: .text other further :: rest
      | joined => .text quoted content :: joined
  | part :: parts => part :: joinTexts parts

/-- This function reads a word, if one comes next. -/
def takeWord? : Step (Option Word) := do
  toToken
  let rest ← remaining
  if Mode.bare.endsAt rest then return none
  return some (joinTexts (← takeParts (4 * rest.length + 8) .bare))

def takeWord : Step Word := do
  match ← takeWord? with
  | some word => return word
  | none => failure

/-- This is the text of a word in which nothing is quoted or expanded. -/
def plainText? : Word → Option Octets
  | [.text false content] => some content
  | _ => none

/-- This is the next word when it is plain; nothing is taken. -/
def peekPlain : Step (Option Octets) := do
  let before ← get
  let word ← takeWord?
  set before
  return word.bind plainText?

/-- This test holds when a reserved word comes next, and takes it. -/
def takeReserved (name : String) : Step Bool := do
  if (← peekPlain) == some name.toList then
    let _ ← takeWord
    return true
  else return false

def requireReserved (name : String) : Step Unit := do
  unless ← takeReserved name do failure

/-- This function takes an operator, but not the start of a longer one. -/
def takeSign (sign : String) (longer : List String) : Step Bool := do
  toToken
  let rest ← remaining
  if longer.any fun other => other.toList.isPrefixOf rest then return false
  takeIf sign.toList

/-- This is the text of a word without its quotes. -/
def unquoted : Word → Octets
  | [] => []
  | .text _ content :: parts => content ++ unquoted parts
  | .parameter _ name _ _ :: parts => '$' :: name ++ unquoted parts
  | .output _ script :: parts => script ++ unquoted parts
  | .arithmetic _ _ :: parts => unquoted parts

def isLiteral : Word → Bool
  | [] => false
  | .text quoted _ :: parts => quoted || isLiteral parts
  | _ :: parts => isLiteral parts

/-- This function splits the lines of a text behind a line from the rest of the script. -/
def takeDocumentLines (awaited : Awaited) : Nat → Octets → Octets × Octets
  | 0, text => ([], text)
  | fuel + 1, text =>
      let raw := text.takeWhile (· != '\n')
      let line := if awaited.dropTabs then raw.dropWhile (· == '\t') else raw
      let after := text.drop (raw.length + 1)
      if line == awaited.mark || text.isEmpty then ([], after)
      else
        let (lines, rest) := takeDocumentLines awaited fuel after
        (line ++ '\n' :: lines, rest)

/-- This function reads a text behind a line. Unless it is literal, its parameters are expanded. -/
def takeDocument (awaited : Awaited) : Step Unit := do
  let rest ← remaining
  let (content, after) := takeDocumentLines awaited (rest.length + 1) rest
  let body ← if awaited.literal then pure [Part.text true content]
    else
      setRest content
      let parts ← takeParts (4 * content.length + 8) .document
      pure (joinTexts parts)
  modify fun source => { source with rest := after, bodies := source.bodies ++ [body] }

/-- This function takes the end of a line with the texts that follow it. -/
def takeLineEnd : Step Bool := do
  toToken
  if ← takeIf ['\n'] then
    let awaited := (← get).awaited
    modify fun source => { source with awaited := [] }
    awaited.forM takeDocument
    return true
  else return false

def skipLines : Nat → Step Unit
  | 0 => return ()
  | fuel + 1 => do
      if ← takeLineEnd then skipLines fuel

/-- This function takes the digits of a descriptor in front of a redirection. -/
def takeDescriptor : Step (Option Nat) := do
  toToken
  let rest ← remaining
  let digits := rest.takeWhile Text.isDigit
  match rest.drop digits.length with
  | character :: _ =>
      if !digits.isEmpty && (character == '<' || character == '>') then
        drop digits.length
        return some (Text.ofDigits 10 digits)
      else return none
  | [] => return none

/-- This function reads a redirection, if one comes next. -/
def takeRedirection : Step (Option Redirection) := do
  let descriptor ← takeDescriptor
  if ← takeIf "<<".toList then
    let dropTabs ← takeIf ['-']
    let word ← takeWord
    let source ← get
    let number := source.bodies.length + source.awaited.length
    let awaited : Awaited := ⟨unquoted word, isLiteral word, dropTabs⟩
    set { source with awaited := source.awaited ++ [awaited] }
    return some (.here number)
  else if ← takeIf "<&".toList then return some (.copy (descriptor.getD 0) (← takeWord))
  else if ← takeIf "<".toList then return some (.input (← takeWord))
  else if ← takeIf ">&".toList then return some (.copy (descriptor.getD 1) (← takeWord))
  else if ← takeIf ">>".toList then return some (.output (descriptor.getD 1) true (← takeWord))
  else if ← takeIf ">|".toList then return some (.output (descriptor.getD 1) false (← takeWord))
  else if ← takeIf ">".toList then return some (.output (descriptor.getD 1) false (← takeWord))
  else return none

def takeRedirections : Nat → Step (List Redirection)
  | 0 => return []
  | fuel + 1 => do
      match ← takeRedirection with
      | none => return []
      | some redirection => return redirection :: (← takeRedirections fuel)

/-- This is the name and the value of a word that assigns. -/
def assignment? : Word → Option (Octets × Word)
  | .text false content :: parts =>
      let name := content.takeWhile isNameCharacter
      match content.drop name.length with
      | '=' :: value =>
          if (name.head?.map isNameStart).getD false then
            some (name, if value.isEmpty then parts else .text false value :: parts)
          else none
      | _ => none
  | _ => none

/-- This function reads words, assignments and redirections in any order; a word behind the name
of the command is no assignment. -/
def takeSimple :
    Nat → Nat → List (Octets × Word) → List Word → List Redirection → Step Command
  | 0, _, _, _, _ => failure
  | fuel + 1, line, assignments, words, redirections => do
      match ← takeRedirection with
      | some redirection =>
          takeSimple fuel line assignments words (redirections ++ [redirection])
      | none =>
          match ← takeWord? with
          | none =>
              if assignments.isEmpty && words.isEmpty && redirections.isEmpty then failure
              else return .simple line assignments words redirections
          | some word =>
              match assignment? word with
              | some pair =>
                  if words.isEmpty then
                    takeSimple fuel line (assignments ++ [pair]) words redirections
                  else takeSimple fuel line assignments (words ++ [word]) redirections
              | none => takeSimple fuel line assignments (words ++ [word]) redirections

/-- These words end a list of commands. -/
def closers : List String :=
  ["then", "else", "elif", "fi", "do", "done", "esac", "\x7d"]

/-- This test holds where a list of commands ends. -/
def atListEnd : Step Bool := do
  toToken
  match ← remaining with
  | [] => return true
  | ')' :: _ => return true
  | ';' :: ';' :: _ => return true
  | _ =>
      match ← peekPlain with
      | some word => return (closers.map String.toList).contains word
      | none => return false

/-- This function reads the words of a loop up to the end of their line. -/
def takeLoopWords : Nat → Step (List Word)
  | 0 => return []
  | fuel + 1 => do
      match ← takeWord? with
      | none => return []
      | some word => return word :: (← takeLoopWords fuel)

/-- This function reads the patterns of a case up to the closing bracket. -/
def takePatterns : Nat → Step (List Word)
  | 0 => failure
  | fuel + 1 => do
      let pattern ← takeWord
      if ← takeSign "|" [] then return pattern :: (← takePatterns fuel)
      else if ← takeSign ")" [] then return [pattern]
      else failure

mutual

/-- This function reads commands to the end of their list. -/
def takeList : Nat → Step Command
  | 0 => failure
  | fuel + 1 => do
      skipLines (fuel + 1)
      if ← atListEnd then return .nothing
      let first ← takeChain fuel
      if ← takeLineEnd then return .sequence first (← takeList fuel)
      else if ← takeSign ";" [";;"] then return .sequence first (← takeList fuel)
      else if ← takeSign "&" ["&&"] then return .sequence first (← takeList fuel)
      else if ← atListEnd then return first
      else failure

/-- This function reads pipelines that depend on each other's success. -/
def takeChain : Nat → Step Command
  | 0 => failure
  | fuel + 1 => do
      let first ← takePipeline fuel
      takeChainRest fuel first

def takeChainRest : Nat → Command → Step Command
  | 0, _ => failure
  | fuel + 1, first => do
      if ← takeSign "&&" [] then
        skipLines (fuel + 1)
        takeChainRest fuel (.both first (← takePipeline fuel))
      else if ← takeSign "||" [] then
        skipLines (fuel + 1)
        takeChainRest fuel (.either first (← takePipeline fuel))
      else return first

def takePipeline : Nat → Step Command
  | 0 => failure
  | fuel + 1 => do
      if ← takeReserved "!" then return .negated (← takePipeline fuel)
      else takePipes fuel (← takeCommand fuel)

def takePipes : Nat → Command → Step Command
  | 0, _ => failure
  | fuel + 1, first => do
      if ← takeSign "|" ["||"] then
        skipLines (fuel + 1)
        takePipes fuel (.pipe first (← takeCommand fuel))
      else return first

/-- This function reads one command with its redirections. -/
def takeCommand : Nat → Step Command
  | 0 => failure
  | fuel + 1 => do
      let body ← takeCompound fuel
      match body with
      | none =>
          toToken
          takeSimple (fuel + 1) (← get).line [] [] []
      | some command =>
          let redirections ← takeRedirections (fuel + 1)
          return if redirections.isEmpty then command else .redirected command redirections

/-- This function reads a command that starts with a reserved word or a bracket. -/
def takeCompound : Nat → Step (Option Command)
  | 0 => failure
  | fuel + 1 => do
      if ← takeSign "(" [] then
        let body ← takeList fuel
        unless ← takeSign ")" [] do failure
        return some (.subshell body)
      else if ← takeReserved "\x7b" then
        let body ← takeList fuel
        requireReserved "\x7d"
        return some body
      else if ← takeReserved "if" then return some (← takeBranch fuel)
      else if ← takeReserved "while" then return some (← takeLoop fuel false)
      else if ← takeReserved "until" then return some (← takeLoop fuel true)
      else if ← takeReserved "for" then return some (← takeEach fuel)
      else if ← takeReserved "case" then
        let word ← takeWord
        skipLines (fuel + 1)
        requireReserved "in"
        return some (.select word (← takeCases fuel))
      else if ← atListEnd then failure
      else takeFunction fuel

/-- This function reads the rest of a definition, if the next command is one. -/
def takeFunction : Nat → Step (Option Command)
  | 0 => failure
  | fuel + 1 => do
      let before ← get
      match (← takeWord?).bind plainText? with
      | none =>
          set before
          return none
      | some name =>
          if name.all isNameCharacter && (← takeSign "(" []) then
            unless ← takeSign ")" [] do failure
            skipLines (fuel + 1)
            return some (.function name (← takeCommand fuel))
          else
            set before
            return none

/-- This function reads a branch behind its first word. -/
def takeBranch : Nat → Step Command
  | 0 => failure
  | fuel + 1 => do
      let condition ← takeList fuel
      requireReserved "then"
      let yes ← takeList fuel
      if ← takeReserved "elif" then return .branch condition yes (← takeBranch fuel)
      else if ← takeReserved "else" then
        let no ← takeList fuel
        requireReserved "fi"
        return .branch condition yes no
      else
        requireReserved "fi"
        return .branch condition yes .nothing

def takeLoop : Nat → Bool → Step Command
  | 0, _ => failure
  | fuel + 1, inverted => do
      let condition ← takeList fuel
      return .loop condition (← takeBody fuel) inverted

def takeBody : Nat → Step Command
  | 0 => failure
  | fuel + 1 => do
      requireReserved "do"
      let body ← takeList fuel
      requireReserved "done"
      return body

/-- This function reads a loop over words; without a list of words it runs over the arguments. -/
def takeEach : Nat → Step Command
  | 0 => failure
  | fuel + 1 => do
      match plainText? (← takeWord) with
      | none => failure
      | some name =>
          skipLines (fuel + 1)
          let words ←
            if ← takeReserved "in" then some <$> takeLoopWords (fuel + 1) else pure none
          let _ ← takeSign ";" [";;"]
          skipLines (fuel + 1)
          return .each name words (← takeBody fuel)

/-- This function reads the cases of a choice to its end. -/
def takeCases : Nat → Step (List (List Word × Command))
  | 0 => failure
  | fuel + 1 => do
      skipLines (fuel + 1)
      if ← takeReserved "esac" then return []
      let _ ← takeSign "(" []
      let patterns ← takePatterns (fuel + 1)
      let body ← takeList fuel
      if ← takeSign ";;" [] then return (patterns, body) :: (← takeCases fuel)
      else
        requireReserved "esac"
        return [(patterns, body)]

end

/-- This function reads commands to the end of their line. -/
def takeLine (fuel : Nat) : Nat → Step Command
  | 0 => failure
  | count + 1 => do
      toToken
      let first ← takeChain fuel
      if ← takeLineEnd then return first
      let more ← if ← takeSign ";" [";;"] then pure true else takeSign "&" ["&&"]
      if !more then
        if (← remaining).isEmpty then return first else failure
      else if ← takeLineEnd then return first
      else if (← remaining).isEmpty then return first
      else return .sequence first (← takeLine fuel count)

end Source

/-- This is a line of a script with the texts that follow it. -/
structure Line where
  command : Command
  bodies : List Word

/-- This is what comes next in a script. Behind a line come the number of the next one and the rest
of the script. -/
inductive Next where
  | finished
  | faulty
  | line (line : Line) (number : Nat) (rest : Octets)

/-- This function reads the first line with a command off a script whose first line has a
number. -/
def readLine (number : Nat) (script : Octets) : Next :=
  let size := 8 * script.length + 64
  let blank := (Source.skipLines size *> Source.toToken).run (Source.start number script)
  match blank with
  | none => .faulty
  | some (_, source) =>
      if source.rest.isEmpty then .finished
      else
        match (Source.takeLine size size).run source with
        | none => .faulty
        | some (command, after) =>
            let unread := after.awaited.map fun _ => ([] : Word)
            .line ⟨command, after.bodies ++ unread⟩ after.line after.rest

end SheetLint.Shell
