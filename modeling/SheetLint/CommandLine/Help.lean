/-
This file writes the help for a command, short or long, and the line that shows its usage.
-/

import SheetLint.CommandLine.Grammar

namespace SheetLint.CommandLine

/-- This is something that was given: an option or operands. -/
inductive Slot where
  | option (form : OptionForm)
  | operands (form : OperandForm)
  deriving DecidableEq, Repr

/-- This is how an option is written with its value. -/
def OptionForm.display (form : OptionForm) : String :=
  match form.value with
  | some value => "--" ++ form.long ++ " <" ++ value ++ ">"
  | none => "--" ++ form.long

def OperandForm.display (form : OperandForm) : String :=
  "<" ++ form.value ++ ">..."

def OperandForm.optionalDisplay (form : OperandForm) : String :=
  "[" ++ form.value ++ "]..."

namespace CommandForm

/-- The operands of the help command may be left out, those of every other command may not. -/
def operandDisplay (form : CommandForm) (operand : OperandForm) : String :=
  if form.hasHelp then operand.display else operand.optionalDisplay

/-- This is the usage of a command. -/
def usage (form : CommandForm) : String :=
  " ".intercalate ([form.title] ++ (if form.options.isEmpty then [] else ["[OPTIONS]"]) ++
    (form.operand.map form.operandDisplay).toList ++
    (if form.commands.isEmpty then [] else ["<COMMAND>"]))

def slotDisplay? : Slot → Option String
  | .option form => some form.display
  | .operands _ => none

/-- This is the usage that shows the options that were given. Without any it is the usual one. -/
def usageWith (form : CommandForm) (used : List Slot) : String :=
  if used.isEmpty then form.usage
  else
    " ".intercalate ([form.title] ++ used.filterMap slotDisplay? ++
      (form.operand.map form.operandDisplay).toList ++
      (if form.commands.isEmpty then [] else ["<COMMAND>"]))

end CommandForm

def spaces (count : Nat) : String :=
  String.ofList (List.replicate count ' ')

/-- This is an entry of the help: what is typed and what it means. -/
structure Entry where
  left : String
  right : String
  /-- What the long help adds below. -/
  note : Option String

/-- This is the part of the help under a heading. In short help the meanings stand in a column
behind what is typed, in long help below it. -/
def Entry.block (long : Bool) (heading : String) (entries : List Entry) : String :=
  let width := entries.foldl (fun width entry => max width entry.left.length) 0
  let short (entry : Entry) : String :=
    "  " ++ entry.left ++ spaces (width - entry.left.length + 2) ++ entry.right ++
      ((entry.note.map fun note => " " ++ note).getD "") ++ "\n"
  let indent := spaces 10
  let wide (entry : Entry) : String :=
    "  " ++ entry.left ++ "\n" ++ indent ++ entry.right ++ "\n" ++
      ((entry.note.map fun note => indent ++ "\n" ++ indent ++ note ++ "\n").getD "")
  heading ++ ":\n" ++
    (if long then "\n".intercalate (entries.map wide) else String.join (entries.map short))

def OptionForm.entry (long : Bool) (form : OptionForm) : Entry where
  left := (match form.short with
    | some short => "-" ++ String.singleton short ++ ", "
    | none => "    ") ++ form.display
  right :=
    if form.name = .help then
      form.about ++ (if long then " (see a summary with '-h')" else " (see more with '--help')")
    else form.about
  note := form.standard.map fun value => "[default: " ++ value ++ "]"

namespace CommandForm

/-- This is the help for a command. Only commands with options have a long one. -/
def help (form : CommandForm) (wantsLong : Bool) : String :=
  let long := wantsLong && form.hasHelp
  let operands := form.operand.toList.map fun operand =>
    Entry.block long "Arguments" [⟨form.operandDisplay operand, operand.about, none⟩]
  let commands :=
    if form.commands.isEmpty then []
    else [Entry.block false "Commands" (form.commands.map fun entry =>
      ⟨entry.1, entry.2, none⟩)]
  let options :=
    if form.options.isEmpty then []
    else [Entry.block long "Options" (form.options.map (OptionForm.entry long))]
  let examples :=
    if form.examples.isEmpty then []
    else ["Examples:\n" ++ String.join (form.examples.map fun line => "  " ++ line ++ "\n")]
  "\n".intercalate ([(if long then form.longAbout else form.about) ++ "\n",
    "Usage: " ++ form.usage ++ "\n"] ++ operands ++ commands ++ options ++ examples)

end CommandForm

end SheetLint.CommandLine
