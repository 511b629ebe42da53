/-
This file runs the commands of shell scripts.
-/

import SheetLint.Interpreter
import SheetLint.Shell.Arithmetic
import SheetLint.Shell.Condition
import SheetLint.Shell.Field
import SheetLint.Shell.Filter
import SheetLint.Shell.Reader

namespace SheetLint.Shell

namespace State

/-- These characters separate fields. -/
def separators (state : State) : Octets :=
  (state.bindings.lookup "IFS".toList).getD [' ', '\t', '\n']

def split (state : State) (pieces : List Piece) : List Field :=
  splitFields state.separators.contains none pieces

/-- These are the pieces of a value. A quoted value is a field even when it is empty. -/
def piecesOf (quoted : Bool) (value : Octets) : List Piece :=
  (if quoted then [.present] else []) ++ value.map (Piece.octet quoted)

/-- These are the names of the files under a directory that fit the segments of a field. A name
that starts with a dot only fits a segment that starts with one. -/
def findNames (state : State) : Octets → List Field → List Octets
  | found, [] => [found]
  | found, segment :: segments =>
      let goOn (name : Octets) : List Octets :=
        let path := found ++ name
        if segments.isEmpty then
          (if (state.tree.lookup? state.directory (pathOf path)).isSome then [path] else [])
        else findNames state (path ++ ['/']) segments
      if !segment.isPattern then goOn segment.text
      else
        let directory := if found.isEmpty then ['.'] else found
        match state.tree.resolve state.directory (pathOf directory) with
        | .error _ => []
        | .ok place =>
            let names := (state.tree.children place).map fun name =>
              octetsOfString (String.ofList name)
            let fitting := names.filter fun name =>
              segment.fits name && (name.head? != some '.' || segment.text.head? == some '.')
            (fitting.mergeSort fun first second => decide (first ≤ second)).flatMap goOn

/-- These are the files whose names fit a field, or else the text of the field. -/
def namesOf (state : State) (field : Field) : List Octets :=
  if !field.isPattern then [field.text]
  else
    match state.findNames [] field.segments with
    | [] => [field.text]
    | names => names

/-- These are the pieces of all arguments, each a field of its own. -/
def piecesOfArguments (state : State) (quoted : Bool) : List Piece :=
  List.intercalate [.border] (state.arguments.map (piecesOf quoted))

/-- This function takes the line feeds at the end of an output away. -/
def trimLineFeeds (text : Octets) : Octets :=
  (text.reverse.dropWhile (· == '\n')).reverse

/-- This test holds for a command whose last argument asks for nothing that is known here. -/
def isOption (argument : Octets) : Bool :=
  argument.head? == some '-' && 1 < argument.length

/-- This test holds for an option with a name of several letters. -/
def hasLongOption (argument : Octets) : Bool :=
  ['-', '-'].isPrefixOf argument && 2 < argument.length

/-- This is the failure of a program that does not know an option. -/
def refuseOption (state : State) (program : String) (argument : Octets) : State :=
  let cause := if hasLongOption argument then
      ["unrecognized option '".toList, argument]
    else ["invalid option -- '".toList, (argument.drop 1).take 1]
  state.complain 1 ([program.toList, ": ".toList] ++ cause ++
    ["'\nTry '".toList, program.toList, " --help' for more information.".toList])

/-- This function runs a program unless it gets an option with a name of several letters. -/
def withoutLongOptions (state : State) (program : String) (arguments : List Octets)
    (run : State → State) : State :=
  match arguments.find? hasLongOption with
  | some argument => state.refuseOption program argument
  | none => run state

/-- This is the command that writes files, or its input, to its output. -/
def concatenate (state : State) (arguments : List Octets) : State :=
  let known := arguments.filter fun argument =>
    argument != "-u".toList && argument != "--".toList
  match known.find? isOption with
  | some argument => state.refuseOption "cat" argument
  | none =>
  if known.isEmpty then { state.print state.input with input := [] }
  else
    known.foldl (fun (state : State) name =>
      if name == ['-'] then { state.write state.input with input := [] }
      else
        match state.readFile name with
        | .ok content => state.write content
        | .error cause =>
            state.complain 1 ["cat: ".toList, name, ": ".toList, cause.description.toList])
      (state.fail 0)

/-- This function takes lines off a text. -/
def takeLines : Nat → Octets → Octets
  | 0, _ => []
  | count + 1, text =>
      let line := text.takeWhile (· != '\n')
      match text.drop line.length with
      | [] => line
      | _ :: rest => line ++ '\n' :: takeLines count rest

/-- This is the command that writes the first lines or bytes of a file or of its input. -/
def writeStart (state : State) (arguments : List Octets) : State :=
  let number (text : Octets) : Nat := Text.ofDigits 10 (text.takeWhile Text.isDigit)
  let (cut, names) : (Octets → Octets) × List Octets := match arguments with
    | ['-', 'n'] :: count :: names => (takeLines (number count), names)
    | ['-', 'c'] :: count :: names => (List.take (number count), names)
    | ('-' :: 'n' :: count) :: names => (takeLines (number count), names)
    | ('-' :: 'c' :: count) :: names => (List.take (number count), names)
    | ('-' :: count) :: names => (takeLines (number count), names)
    | names => (takeLines 10, names)
  match names with
  | [] => { state.print (cut state.input) with input := [] }
  | name :: _ =>
      match state.readFile name with
      | .ok content => state.print (cut content)
      | .error cause =>
          state.complain 1 ["head: cannot open '".toList, name, "' for reading: ".toList,
            cause.description.toList]

/-- This is the command that counts the lines, words and bytes of a file or of its input. -/
def count (state : State) (arguments : List Octets) : State :=
  let letters := ((arguments.filter isOption).map (List.drop 1)).flatten
  let asked := if letters.isEmpty then "lwc".toList else letters
  match arguments.find? fun argument =>
      isOption argument && (argument.drop 1).any fun letter => !"lwc".toList.contains letter with
  | some argument => state.refuseOption "wc" argument
  | none =>
    let counted (text : Octets) (name : Option Octets) : Octets :=
      writeCounts (countsOf asked text) text.length name
    match arguments.filter fun argument => !isOption argument with
    | [] => { state.print (counted state.input none) with input := [] }
    | name :: _ =>
        match state.readFile name with
        | .ok content => state.print (counted content (some name))
        | .error cause =>
            state.complain 1 ["wc: ".toList, name, ": ".toList, cause.description.toList]

/-- This is the command that replaces or deletes bytes of its input. -/
def replace (state : State) (arguments : List Octets) : State :=
  match arguments with
  | [['-', 'd'], unwanted] =>
      let kept := state.input.filter fun character => !(setOf unwanted).contains character
      { state.print kept with input := [] }
  | [first, second] =>
      { state.print (replaceCharacters (setOf first) (setOf second) state.input) with input := [] }
  | _ => state.fail 1

/-- This is the last component of a path, without an ending if that is given. -/
def baseName (arguments : List Octets) : Octets :=
  let path := arguments.headD []
  let trimmed := (path.reverse.dropWhile (· == '/')).reverse
  let name := (trimmed.reverse.takeWhile (· != '/')).reverse
  let ending := arguments.getD 1 []
  if name.isEmpty then (if path.isEmpty then [] else ['/'])
  else if name != ending && ending.isSuffixOf name then name.take (name.length - ending.length)
  else name

/-- This is a path without its last component. -/
def directoryName (path : Octets) : Octets :=
  let trimmed := (path.reverse.dropWhile (· == '/')).reverse
  let upper := (trimmed.reverse.dropWhile (· != '/')).reverse
  let shown := (upper.reverse.dropWhile (· == '/')).reverse
  if upper.isEmpty then (if trimmed.isEmpty && !path.isEmpty then ['/'] else ['.'])
  else if shown.isEmpty then ['/']
  else shown

/-- This is the command that reads a line into variables. The last one gets what is left. -/
def readLineInto (state : State) (names : List Octets) : State :=
  let line := state.input.takeWhile (· != '\n')
  let rest := state.input.drop line.length
  let trim (text : Octets) : Octets := text.dropWhile state.separators.contains
  let rec assign (state : State) (text : Octets) : List Octets → State
    | [] => state
    | [name] =>
        state.setVariable name
          ((text.reverse.dropWhile state.separators.contains).reverse)
    | name :: names =>
        let word := text.takeWhile fun character => !state.separators.contains character
        assign (state.setVariable name word) (trim (text.drop word.length)) names
  let assigned := assign state (trim line) names
  { assigned with input := rest.drop 1, status := if rest.isEmpty then 1 else 0 }

/-- This is the command that changes the options and the arguments of the shell. -/
def setOptions (state : State) : List Octets → State
  | [] => state
  | ['-', '-'] :: arguments => { state with arguments }
  | ('-' :: 'o' :: _) :: _ :: rest => setOptions state rest
  | ('-' :: letters) :: rest =>
      setOptions { state with exitOnFailure := state.exitOnFailure || letters.contains 'e' } rest
  | ('+' :: letters) :: rest =>
      setOptions { state with exitOnFailure := state.exitOnFailure && !letters.contains 'e' } rest
  | arguments => { state with arguments }

/-- This function gives a variable a value where there is one, and exports it. -/
def exportArgument (state : State) (argument : Octets) : State :=
  let name := argument.takeWhile (· != '=')
  let named := match argument.drop name.length with
    | [] => state
    | _ :: value => state.setVariable name value
  named.exportVariable name

def levelsOf (arguments : List Octets) : Nat :=
  match arguments with
  | [] => 1
  | count :: _ => max 1 (numberOf count).toNat

/-- This function stops the shell, with a status if one is given. -/
def finish (state : State) (arguments : List Octets) : State :=
  let status := match arguments with
    | [] => state.status
    | status :: _ => (numberOf status % 256).toNat
  { state with status, stop := .finish }

/-- This is the command that tests a condition, under either of its names. -/
def runTest (state : State) (name : Octets) (arguments : List Octets) : State :=
  let reason : List Octets :=
    if (arguments.getD 1 []).head? == some '-' then
      match arguments.find? fun argument => !isWhole argument && argument.head? != some '-' with
      | some argument => ["Illegal number: ".toList, argument]
      | none => ["unexpected operator".toList]
    else [arguments.headD [], ": unexpected operator".toList]
  match state.testStatus arguments with
  | 2 => state.fault 2 ([name, ": ".toList] ++ reason)
  | status => state.fail status

/-- This function runs a command that needs no other commands, if there is one of that name. -/
def runSimple? (state : State) (name : Octets) (arguments : List Octets) : Option State :=
  match String.ofList name with
  | ":" => some (state.fail 0)
  | "true" => some (state.fail 0)
  | "false" => some (state.fail 1)
  | "echo" => some (state.print (echo arguments))
  | "printf" =>
      some (if arguments.isEmpty then
          state.fault 2 ["printf: usage: printf format [arg ...]".toList]
        else state.print (printFormat arguments))
  | "pwd" =>
      some (if arguments.any hasLongOption then state.fault 2 ["pwd: Illegal option --".toList]
        else state.print (octetsOfString state.directory.path.toString ++ ['\n']))
  | "test" => some (state.runTest name arguments)
  | "[" =>
      some (if arguments.getLast? == some [']'] then state.runTest name arguments.dropLast
        else state.fault 2 ["[: missing ]".toList])
  | "cat" => some (state.concatenate arguments)
  | "head" => some (state.writeStart arguments)
  | "wc" => some (state.count arguments)
  | "tr" =>
      some (state.withoutLongOptions "tr" arguments fun state => state.replace arguments)
  | "basename" =>
      some (state.withoutLongOptions "basename" arguments fun state =>
        state.print (baseName arguments ++ ['\n']))
  | "dirname" =>
      some (state.withoutLongOptions "dirname" arguments fun state =>
        state.print (directoryName (arguments.headD []) ++ ['\n']))
  | "sleep" => some (state.fail 0)
  | "wait" => some (state.fail 0)
  | "trap" => some (state.fail 0)
  | "umask" => some (state.fail 0)
  | "read" => some (state.readLineInto (arguments.filter (· != ['-', 'r'])))
  | "exit" => some (state.finish arguments)
  | "kill" =>
      some (if arguments.contains processNumber && !arguments.contains ['-', '0'] then
        { state with status := 137, stop := .finish } else state.fail 0)
  | "cd" =>
      let name := arguments.headD ['.']
      let refused := state.fault 2 ["cd: can't cd to ".toList, name]
      some <| match state.tree.resolve state.directory (pathOf name) with
        | .ok place =>
            if state.tree.isDirectoryAt place then { state with directory := place, status := 0 }
            else refused
        | .error _ => refused
  | "set" => some { state.setOptions arguments with status := 0 }
  | "shift" =>
      let count := match arguments with
        | [] => 1
        | count :: _ => (numberOf count).toNat
      some (if state.arguments.length < count then
          state.abort ["shift: can't shift that many".toList]
        else { state with arguments := state.arguments.drop count, status := 0 })
  | "export" => some { arguments.foldl exportArgument state with status := 0 }
  | "unset" =>
      some { state with
        bindings := state.bindings.filter fun entry => !arguments.contains entry.1
        status := 0 }
  | "break" => some { state with status := 0, stop := .leaveLoop (levelsOf arguments) }
  | "continue" => some { state with status := 0, stop := .nextRound (levelsOf arguments) }
  | "return" => some { state.finish arguments with stop := .leaveFunction }
  | _ => none

/-- This is the state after a round of a loop, and whether the loop goes on. -/
def afterRound (state : State) : State × Bool :=
  match state.stop with
  | .none => (state, true)
  | .leaveLoop (levels + 2) => ({ state with stop := .leaveLoop (levels + 1) }, false)
  | .leaveLoop _ => ({ state with stop := .none }, false)
  | .nextRound (levels + 2) => ({ state with stop := .nextRound (levels + 1) }, false)
  | .nextRound _ => ({ state with stop := .none }, true)
  | .finish => (state, false)
  | .leaveFunction => (state, false)

end State

/-- These are the letters that stand for options of the shell. -/
def knownLetters : Octets := "aCefnuvxIimsVEbp".toList

/-- This is what a call of the shell asks for. -/
structure ShellCall where
  fromArgument : Bool
  exitOnFailure : Bool
  operands : List Octets

/-- This function reads the options of a call of the shell, unless one is unknown. -/
def readCall? (call : ShellCall) : List Octets → Option ShellCall
  | [] => some call
  | ['-'] :: rest => some { call with operands := rest }
  | ['-', '-'] :: rest => some { call with operands := rest }
  | ('-' :: letters) :: rest =>
      if letters.all fun letter => letter == 'c' || knownLetters.contains letter then
        readCall? { call with
          fromArgument := call.fromArgument || letters.contains 'c'
          exitOnFailure := call.exitOnFailure || letters.contains 'e' } rest
      else none
  | operands => some { call with operands }

namespace State

mutual

/-- This function runs the lines of a script, which start with a number, until the script ends or
cannot be read. -/
def runScript : Nat → Nat → Octets → State → State
  | 0, _, _, state => state
  | fuel + 1, number, script, state =>
      match readLine number script with
      | .finished => state
      | .faulty =>
          { state with line := number }.abort ["Syntax error: end of file unexpected".toList]
      | .line line number rest =>
          let after := runCommand fuel false line.bodies line.command state
          if after.stop == .none then runScript fuel number rest after else after

/-- These are the pieces of a word. -/
def expandWord : Nat → Word → State → List Piece × State
  | 0, _, state => ([], state)
  | _ + 1, [], state => ([], state)
  | fuel + 1, part :: parts, state =>
      let (pieces, state) := expandPart fuel part state
      let (others, state) := expandWord fuel parts state
      (pieces ++ others, state)

def expandPart : Nat → Part → State → List Piece × State
  | 0, _, state => ([], state)
  | _ + 1, .text quoted content, state => (piecesOf quoted content, state)
  | fuel + 1, .output quoted script, state =>
      let (text, inner) := state.gathered (runScript fuel state.line script state.gathering)
      (piecesOf quoted (trimLineFeeds text), state.leaveSubshell inner)
  | fuel + 1, .arithmetic quoted content, state =>
      let (text, state) := expandText fuel content state
      match (Calculation.parse? text).bind fun calculation => calculation.evaluate? state with
      | some (value, state) => (piecesOf quoted (Calculation.textOf value), state)
      | none =>
          ([], state.abort ["arithmetic expression: expecting primary: \"".toList, text,
            ['"']])
  | fuel + 1, .parameter quoted name expansion operand, state =>
      let missing (emptyToo : Bool) : Bool := match state.valueOf? name with
        | none => true
        | some value => emptyToo && value.isEmpty
      let asIs : List Piece × State :=
        if name == ['@'] || (name == ['*'] && !quoted) then (state.piecesOfArguments quoted, state)
        else (piecesOf quoted ((state.valueOf? name).getD []), state)
      match expansion with
      | .value => asIs
      | .length =>
          (piecesOf quoted (Nat.toDigits 10 ((state.valueOf? name).getD []).length), state)
      | .orElse emptyToo => if missing emptyToo then expandWord fuel operand state else asIs
      | .orAssign emptyToo =>
          if missing emptyToo then
            let (pieces, state) := expandWord fuel operand state
            (pieces, state.setVariable name (Field.text (joinPieces pieces)))
          else asIs
      | .orStop emptyToo =>
          if missing emptyToo then
            let (pieces, state) := expandWord fuel operand state
            let wording := Field.text (joinPieces pieces)
            let standard := if emptyToo then "parameter not set or null" else "parameter not set"
            ([], state.abort [name, ": ".toList,
              if wording.isEmpty then standard.toList else wording])
          else asIs
      | .ifGiven emptyToo =>
          if missing emptyToo then (piecesOf quoted [], state) else expandWord fuel operand state
      | .withoutStart longest =>
          let (pieces, state) := expandWord fuel operand state
          let value := (state.valueOf? name).getD []
          (piecesOf quoted ((joinPieces pieces).cutStart longest value), state)
      | .withoutEnd longest =>
          let (pieces, state) := expandWord fuel operand state
          let value := (state.valueOf? name).getD []
          (piecesOf quoted ((joinPieces pieces).cutEnd longest value), state)

/-- These are the fields of some words. -/
def expandFields : Nat → List Word → State → List Octets × State
  | 0, _, state => ([], state)
  | _ + 1, [], state => ([], state)
  | fuel + 1, word :: words, state =>
      let (pieces, state) := expandWord fuel word state
      let fields := (state.split pieces).flatMap state.namesOf
      let (others, state) := expandFields fuel words state
      (fields ++ others, state)

/-- This is the single text that a word stands for. -/
def expandText : Nat → Word → State → Octets × State
  | 0, _, state => ([], state)
  | fuel + 1, word, state =>
      let (pieces, state) := expandWord fuel word state
      (Field.text (joinPieces pieces), state)

/-- This function carries out redirections. When a file cannot be opened, the result is the state
in which that was said. -/
def redirect : Nat → List Word → List Redirection → State → Except State State
  | 0, _, _, state => .error state
  | _ + 1, _, [], state => .ok state
  | fuel + 1, bodies, redirection :: redirections, state => do
      let redirected ← match redirection with
        | .input word =>
            let (name, state) := expandText fuel word state
            match state.readFile name with
            | .ok input => pure { state with input }
            | .error cause =>
                throw (state.fault 2 ["cannot open ".toList, name, ": ".toList,
                  openReason "No such file" cause])
        | .output descriptor append word =>
            let (name, state) := expandText fuel word state
            match state.openFile descriptor append name with
            | .ok state => pure state
            | .error cause =>
                throw (state.fault 2 ["cannot create ".toList, name, ": ".toList,
                  openReason "Directory nonexistent" cause])
        | .copy descriptor word =>
            let (target, state) := expandText fuel word state
            pure (state.copySink descriptor target)
        | .here number =>
            let (input, state) := expandText fuel (bodies.getD number []) state
            pure { state with input }
      redirect fuel bodies redirections redirected

/-- This function runs something under redirections, which end with it. The input goes on where it
was left unless it was redirected. -/
def underRedirections :
    Nat → List Word → List Redirection → (State → State) → State → State
  | 0, _, _, _, state => state
  | fuel + 1, bodies, redirections, action, state =>
      let replacesInput := redirections.any fun redirection =>
        match redirection with
        | .input _ => true
        | .here _ => true
        | .copy 0 _ => true
        | _ => false
      let after := match redirect fuel bodies redirections state with
        | .error failed => failed
        | .ok redirected => action redirected
      { after with
        sinks := state.sinks
        input := if replacesInput then state.input else after.input }

/-- This function gives variables the values of assignments in front of a command. -/
def assign : Nat → Bool → List (Octets × Word) → State → State
  | 0, _, _, state => state
  | _ + 1, _, [], state => state
  | fuel + 1, exports, (name, word) :: others, state =>
      let (value, state) := expandText fuel word state
      let assigned := state.setVariable name value
      assign fuel exports others (if exports then assigned.exportVariable name else assigned)

/-- This function runs a shell of its own with the arguments of its call. -/
def runShell : Nat → List Octets → State → State
  | 0, _, state => state
  | fuel + 1, arguments, state =>
      match readCall? ⟨false, false, arguments⟩ arguments with
      | none => state.complain 2 ["sh: 0: Illegal option".toList]
      | some call =>
          let begin (name : Octets) (arguments : List Octets) : State :=
            { State.start state.tree state.directory state.exportedVariables name arguments
                state.input with
              exitOnFailure := call.exitOnFailure
              sinks := state.sinks
              written := state.written
              streams := state.streams }
          let finish (inner : State) : State := state.leaveSubshell inner
          match call.fromArgument, call.operands with
          | true, [] => state.complain 2 ["sh: 0: -c requires an argument".toList]
          | true, script :: others =>
              finish (runScript fuel 1 script (begin (others.headD ['s', 'h']) (others.drop 1)))
          | false, [] =>
              finish (runScript fuel 1 state.input { begin ['s', 'h'] [] with input := [] })
          | false, file :: others =>
              match state.readFile file with
              | .ok script => finish (runScript fuel 1 script (begin file others))
              | .error cause =>
                  state.complain 2 ["sh: 0: cannot open ".toList, file, ": ".toList,
                    openReason "No such file" cause]

/-- This function runs a script at a path with the program that its first line names. -/
def runFile : Nat → Octets → List Octets → State → State
  | 0, _, _, state => state
  | fuel + 1, name, arguments, state =>
      match state.tree.lookup? state.directory (pathOf name) with
      | some (.command command) =>
          runProgram fuel (octetsOfString (String.ofList command)) arguments state
      | some (.file content true) =>
          match Interpreter.read? content with
          | none => runShell fuel (name :: arguments) state
          | some interpreter =>
              let given := (interpreter.argument.map octetsOfString).toList ++ name :: arguments
              match state.tree.lookup? state.directory interpreter.path with
              | some (.command command) =>
                  runProgram fuel (octetsOfString (String.ofList command)) given state
              | _ => state.fault 127 [name, ": not found".toList]
      | some _ => state.fault 126 [name, ": Permission denied".toList]
      | none => state.fault 127 [name, ": not found".toList]

/-- This function runs a program of the system. -/
def runProgram : Nat → Octets → List Octets → State → State
  | 0, _, _, state => state
  | fuel + 1, name, arguments, state =>
      if name.contains '/' then runFile fuel name arguments state
      else if name == "sh".toList || name == "dash".toList then runShell fuel arguments state
      else if name == "env".toList then
        let isSetting (argument : Octets) : Bool :=
          argument.contains '=' && argument.head? != some '='
        let changed := (arguments.takeWhile isSetting).foldl exportArgument state
        match arguments.dropWhile isSetting with
        | [] => state.fail 0
        | program :: others =>
            let shells := ["sh", "dash", "env"].map String.toList
            if !program.contains '/' && !shells.contains program &&
                (changed.runSimple? program others).isNone then
              state.complain 127 ["env: '".toList, program,
                "': No such file or directory".toList]
            else
              { runProgram fuel program others changed with
                bindings := state.bindings
                exported := state.exported }
      else
        match state.runSimple? name arguments with
        | some after => after
        | none => state.fault 127 [name, ": not found".toList]

/-- This function runs a command by its name: one of the shell's own, a function or a program. -/
def runNamed : Nat → Bool → Octets → List Octets → State → State
  | 0, _, _, _, state => state
  | fuel + 1, tested, name, arguments, state =>
      match state.functions.find? fun function => function.name == name with
      | some function =>
          let after := runCommand fuel tested function.bodies function.body
            { state with arguments }
          let stop := if after.stop == .leaveFunction then .none else after.stop
          { after with arguments := state.arguments, stop }
      | none =>
          match String.ofList name, arguments with
          | "eval", _ => runScript fuel 1 ([' '].intercalate arguments) state
          | "command", program :: others => runNamed fuel tested program others state
          | ".", file :: _ =>
              match state.readFile file with
              | .ok script => runScript fuel 1 script state
              | .error cause =>
                  state.abort [".: cannot open ".toList, file, ": ".toList,
                    openReason "No such file" cause]
          | "exec", program :: others =>
              { runProgram fuel program others state with stop := .finish }
          | _, _ => runProgram fuel name arguments state

/-- This function runs a command. The flag tells that somebody looks at its status, so that a
failure does not end the shell. -/
def runCommand : Nat → Bool → List Word → Command → State → State
  | 0, _, _, _, state => state
  | fuel + 1, tested, bodies, command, state =>
      let run (command : Command) (state : State) : State :=
        if state.stop == .none then runCommand fuel tested bodies command state else state
      let runTested (command : Command) (state : State) : State :=
        if state.stop == .none then runCommand fuel true bodies command state else state
      let guard (state : State) : State :=
        if state.exitOnFailure && !tested && state.status != 0 && state.stop == .none then
          { state with stop := .finish }
        else state
      match command with
      | .nothing => state
      | .simple line assignments words redirections =>
          let (fields, expanded) := expandFields fuel words { state with line }
          if expanded.stop != .none then expanded else
          match fields with
          | [] =>
              guard (underRedirections fuel bodies redirections
                (assign fuel false assignments) { expanded with
                  status := if words.isEmpty then 0 else expanded.status })
          | name :: arguments =>
              if name == "exec".toList && arguments.isEmpty then
                match redirect fuel bodies redirections expanded with
                | .error failed => { failed with stop := .finish }
                | .ok redirected => redirected.fail 0
              else
                let after := underRedirections fuel bodies redirections
                  (fun state =>
                    let after := runNamed fuel tested name arguments
                      (assign fuel true assignments state)
                    if assignments.isEmpty then after
                    else { after with bindings := state.bindings, exported := state.exported })
                  expanded
                guard after
      | .sequence first second => run second (run first state)
      | .both first second =>
          let after := runTested first state
          if after.status == 0 then run second after else after
      | .either first second =>
          let after := runTested first state
          if after.status == 0 then after else run second after
      | .negated command =>
          let after := runTested command state
          { after with status := if after.status == 0 then 1 else 0 }
      | .pipe first second =>
          let (text, before) := state.gathered (run first state.gathering)
          let inner := run second { state with
            tree := before.tree
            written := before.written
            input := text }
          guard { state.leaveSubshell inner with input := before.input }
      | .subshell body => guard (state.leaveSubshell (run body state))
      | .redirected body redirections =>
          guard (underRedirections fuel bodies redirections (run body) state)
      | .branch condition yes no =>
          let after := runTested condition state
          if after.status == 0 then run yes { after with status := 0 }
          else run no { after with status := 0 }
      | .loop condition body inverted =>
          let checked := runTested condition state
          if checked.stop != .none then checked.afterRound.1
          else if (checked.status == 0) == inverted then { checked with status := 0 }
          else
            let (after, goesOn) := (run body checked).afterRound
            if goesOn then run (.loop condition body inverted) after else after
      | .each name words body =>
          let (values, expanded) := match words with
            | none => (state.arguments, state)
            | some words => expandFields fuel words state
          runEach fuel tested bodies name values body { expanded with status := 0 }
      | .select word cases =>
          let (text, expanded) := expandText fuel word state
          runCases fuel tested bodies text cases { expanded with status := 0 }
      | .function name body =>
          { state with
            functions := ⟨name, body, bodies⟩ ::
              state.functions.filter fun function => function.name != name
            status := 0 }

/-- This function runs a body once for every value. -/
def runEach : Nat → Bool → List Word → Octets → List Octets → Command → State → State
  | 0, _, _, _, _, _, state => state
  | _ + 1, _, _, _, [], _, state => state
  | fuel + 1, tested, bodies, name, value :: values, body, state =>
      let (after, goesOn) :=
        (runCommand fuel tested bodies body (state.setVariable name value)).afterRound
      if goesOn then runEach fuel tested bodies name values body after else after

/-- This function runs the body of the first case with a pattern that fits. -/
def runCases :
    Nat → Bool → List Word → Octets → List (List Word × Command) → State → State
  | 0, _, _, _, _, state => state
  | _ + 1, _, _, _, [], state => state
  | fuel + 1, tested, bodies, text, (patterns, body) :: cases, state =>
      let (chosen, state) := someFits fuel text patterns state
      if chosen then runCommand fuel tested bodies body state
      else runCases fuel tested bodies text cases state

/-- This test holds when the text fits one of the patterns. -/
def someFits : Nat → Octets → List Word → State → Bool × State
  | 0, _, _, state => (false, state)
  | _ + 1, _, [], state => (false, state)
  | fuel + 1, text, pattern :: patterns, state =>
      let (pieces, state) := expandWord fuel pattern state
      if (joinPieces pieces).fits text then (true, state)
      else someFits fuel text patterns state

end

end State

end SheetLint.Shell
