/-
This file describes what may stand on the command line, with the texts that explain it.
-/

namespace SheetLint.CommandLine

inductive OptionName where
  | verbose
  | help
  | version
  | repoRoot
  | output
  | executable
  | workingDir
  | force
  | input
  | offset
  deriving DecidableEq, Repr

/-- This is an option. With a value it must be followed by one. -/
structure OptionForm where
  name : OptionName
  long : String
  short : Option Char
  value : Option String
  about : String
  /-- The value that counts when the option is absent, as far as the help tells it. -/
  standard : Option String
  deriving DecidableEq, Repr

/-- This is something that stands without the name of an option, as often as one likes. -/
structure OperandForm where
  value : String
  about : String
  deriving DecidableEq, Repr

/-- This is a command. The title is what is typed to get to it. -/
structure CommandForm where
  title : String
  about : String
  longAbout : String
  options : List OptionForm
  operand : Option OperandForm
  commands : List (String × String)
  examples : List String
  deriving DecidableEq, Repr

def programName : String := "stylebridge"

def versionNumber : String := "0.1.0"

def verboseForm : OptionForm :=
  ⟨.verbose, "verbose", some 'v', none, "Enable debug logging", none⟩

def helpForm : OptionForm :=
  ⟨.help, "help", some 'h', none, "Print help", none⟩

def versionForm : OptionForm :=
  ⟨.version, "version", some 'V', none, "Print version", none⟩

def outputForm : OptionForm :=
  ⟨.output, "output", none, some "OUTPUT", "Output mode: human|json (default: human)", none⟩

def lintOptions : List OptionForm := [
  ⟨.repoRoot, "repo-root", none, some "REPO_ROOT", "Repository root (default: current dir)", none⟩,
  verboseForm,
  outputForm,
  ⟨.executable, "executable", none, some "EXECUTABLE",
    "Linter executable (default: stylelint)", none⟩,
  ⟨.workingDir, "working-dir", none, some "WORKING_DIR",
    "Working directory for the linter process", none⟩,
  ⟨.force, "force", none, none, "Lint files even if the selector does not cover them", none⟩,
  helpForm]

def parseOptions : List OptionForm := [
  ⟨.input, "input", none, some "INPUT", "Read output from this file instead of stdin", none⟩,
  verboseForm,
  ⟨.offset, "offset", none, some "OFFSET", "Style-block line offset to subtract", some "0"⟩,
  outputForm,
  helpForm]

def versionCommand : CommandForm where
  title := "stylebridge version"
  about := "Show version"
  longAbout := "Print the current stylebridge version."
  options := [verboseForm, helpForm]
  operand := none
  commands := []
  examples := []

def lintCommand : CommandForm where
  title := "stylebridge lint"
  about := "Run stylelint on files"
  longAbout := "Lint files matched by the given paths or globs (relative to the repository root). " ++
    "Files outside the configured selector are skipped unless --force."
  options := lintOptions
  operand := some ⟨"PATTERNS", "Files or glob patterns"⟩
  commands := []
  examples := [
    "stylebridge lint 'styles/*.scss'",
    "stylebridge lint page.html --executable ./node_modules/.bin/stylelint"]

def parseCommand : CommandForm where
  title := "stylebridge parse"
  about := "Translate saved output"
  longAbout := "Translate stylelint --formatter json output read from a file or stdin, " ++
    "without running the tool."
  options := parseOptions
  operand := none
  commands := []
  examples := []

def helpAbout : String := "Print this message or the help of the given subcommand(s)"

/-- This is the command that prints help. It has no options, not even for help. -/
def helpCommand : CommandForm where
  title := "stylebridge help"
  about := helpAbout
  longAbout := helpAbout
  options := []
  operand := some ⟨"COMMAND", "Print help for the subcommand(s)"⟩
  commands := []
  examples := []

def mainCommand : CommandForm where
  title := programName
  about := "Run stylelint and report editor-ready diagnostics"
  longAbout := "Stylebridge — runs stylelint over stylesheets and embedded style blocks, " ++
    "and translates its JSON report into 0-based diagnostics.\n\n" ++
    "Configuration precedence: CLI > stylebridge.toml > defaults."
  options := [verboseForm, helpForm, versionForm]
  operand := none
  commands := [
    ("version", versionCommand.about),
    ("lint", lintCommand.about),
    ("parse", parseCommand.about),
    ("help", helpAbout)]
  examples := [
    "stylebridge lint 'src/**/*.css'",
    "stylebridge lint components/App.vue --output json",
    "stylelint --formatter json < a.css | stylebridge parse --offset 0"]

/-- This is the command with a name inside another one. -/
def CommandForm.command? (form : CommandForm) (name : String) : Option CommandForm :=
  if !(form.commands.any fun entry => entry.1 == name) then none
  else if name == "version" then some versionCommand
  else if name == "lint" then some lintCommand
  else if name == "parse" then some parseCommand
  else some helpCommand

def CommandForm.longOption? (form : CommandForm) (long : String) : Option OptionForm :=
  form.options.find? fun option => option.long == long

def CommandForm.shortOption? (form : CommandForm) (short : Char) : Option OptionForm :=
  form.options.find? fun option => option.short == some short

def CommandForm.hasHelp (form : CommandForm) : Bool :=
  form.options.any fun option => option.name == .help

end SheetLint.CommandLine
