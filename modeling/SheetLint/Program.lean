/-
This file runs the program: it carries out what the command line asks for.
-/

import SheetLint.CommandLine
import SheetLint.LintRun
import SheetLint.Rendering
import SheetLint.Text.Quoted

namespace SheetLint

/-- This is something for the standard error output: a text, or a line for the log. -/
inductive Notice where
  | text (text : String)
  | log (message : String)
  deriving DecidableEq, Repr

/-- This is what a run leaves behind. -/
structure RunResult where
  exitStatus : Nat
  output : String
  notices : List Notice
  deriving DecidableEq, Repr

namespace Program

/-- This is what the program meets: the host, its standard input and whether colours are off. -/
structure Setting where
  host : Host
  input : Bytes
  colourless : Bool

def printed (text : String) : RunResult :=
  ⟨0, text, []⟩

def failed (setting : Setting) (message : String) : RunResult :=
  ⟨2, "", [.text (Rendering.errorLabel setting.colourless ++ " " ++ message ++ "\n")]⟩

/-- This is what is printed for a command line that leads to no run. -/
def refused (refusal : CommandLine.Refusal) : RunResult :=
  if refusal.isWanted then ⟨refusal.exitStatus, refusal.message, []⟩
  else ⟨refusal.exitStatus, "", [.text refusal.message]⟩

/-- This is the hint that there are no settings. -/
def settingsNote (setting : Setting) (configuration : Configuration) : List Notice :=
  if configuration.settingsFound || configuration.output = "json" then []
  else [.text (Rendering.noteLabel setting.colourless ++
    " No stylebridge.toml found; using defaults.\n")]

/-- This is the hint that there was nothing to do. -/
def emptyNote (setting : Setting) (configuration : Configuration) (patterns : List String)
    (result : LintResult) : List Notice :=
  if result.files.isEmpty && configuration.output != "json" then
    [.text (Rendering.infoLabel setting.colourless ++ " No files matched " ++
      Text.quotedList patterns ++ " under the selector '" ++ configuration.selector ++ "'.\n")]
  else []

def runLintOrder (setting : Setting) (patterns : List String) (overrides : Overrides)
    (force verbose : Bool) : RunResult :=
  match Configuration.resolve setting.host overrides with
  | .error error => failed setting error.message
  | .ok configuration =>
      let result := runLint setting.host configuration patterns force
      let logs := LintRun.logs setting.host configuration patterns force verbose
      { exitStatus := result.exitStatus
        output := result.render (Mode.ofName configuration.output) setting.colourless
        notices := settingsNote setting configuration ++ logs.map Notice.log ++
          emptyNote setting configuration patterns result }

/-- This is the saved output to be read with the name it goes by. -/
def readInput (setting : Setting) (path : Option String) : Except OsError (String × String) :=
  match path with
  | some path => (setting.host.readText (Path.ofString path)).map fun text => (path, text)
  | none =>
      match Text.decodeUtf8 setting.input with
      | .ok text => .ok ("<stdin>", String.ofList text)
      | .error _ => .error .notText

def runParseOrder (setting : Setting) (input : Option String) (offset : Nat)
    (output : Option String) : RunResult :=
  match readInput setting input with
  | .error cause => failed setting cause.message
  | .ok (label, text) =>
      let result := LintResult.ofOutput label text offset
      { exitStatus := if result.hasProblems then 1 else 0
        output := result.render (Mode.ofName (output.getD "human")) setting.colourless
        notices := (RawOutput.diagnose ⟨text, offset⟩).shownLogs.map Notice.log }

def carryOut (setting : Setting) (verbose : Bool) : Order → RunResult
  | .version => printed (CommandLine.versionNumber ++ "\n")
  | .lint patterns overrides force => runLintOrder setting patterns overrides force verbose
  | .parse input offset output => runParseOrder setting input offset output

def run (setting : Setting) (arguments : List String) : RunResult :=
  match CommandLine.read arguments with
  | .error refusal => refused refusal
  | .ok commandLine => carryOut setting commandLine.verbose commandLine.order

end Program

end SheetLint
