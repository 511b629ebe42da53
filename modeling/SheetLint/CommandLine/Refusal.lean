/-
This file holds the reasons why a command line leads to a message instead of a run.
-/

import SheetLint.CommandLine.Help

namespace SheetLint.CommandLine

/-- This is a reason why a text is not a number of 64 bits. -/
inductive NumberFault where
  | empty
  | noDigit
  | tooLarge
  deriving DecidableEq, Repr

def NumberFault.message : NumberFault → String
  | .empty => "cannot parse integer from empty string"
  | .noDigit => "invalid digit found in string"
  | .tooLarge => "number too large to fit in target type"

/-- This is a piece of advice about an argument. -/
inductive Tip where
  | none
  | asValue
  | withoutDashes
  deriving DecidableEq, Repr

inductive Cause where
  | help (long : Bool)
  | version
  /-- Nothing was given at all. -/
  | nothingGiven
  | missingCommand
  | unknownCommand (name : String)
  | unknownArgument (argument : String) (tip : Tip)
  | repeated (option : OptionForm)
  | missingValue (option : OptionForm)
  | needlessValue (value : String) (option : OptionForm)
  | invalidValue (value : String) (option : OptionForm) (fault : NumberFault)
  | missingOperands (operand : OperandForm)
  deriving DecidableEq, Repr

/-- This is a reason with the command that it concerns and what was given to it before. -/
structure Refusal where
  cause : Cause
  command : CommandForm
  used : List Slot
  deriving DecidableEq, Repr

namespace Refusal

/-- This is the sentence that says what is wrong. -/
def complaint (refusal : Refusal) : String :=
  match refusal.cause with
  | .missingCommand =>
      "'" ++ refusal.command.title ++ "' requires a subcommand but one was not provided\n" ++
        "  [subcommands: " ++ ", ".intercalate (refusal.command.commands.map Prod.fst) ++ "]"
  | .unknownCommand name => "unrecognized subcommand '" ++ name ++ "'"
  | .unknownArgument argument tip =>
      "unexpected argument '" ++ argument ++ "' found" ++
        match tip with
        | .none => ""
        | .asValue =>
            "\n\n  tip: to pass '" ++ argument ++ "' as a value, use '-- " ++ argument ++ "'"
        | .withoutDashes =>
            "\n\n  tip: subcommand '" ++ argument ++
              "' exists; to use it, remove the '--' before it"
  | .repeated option => "the argument '" ++ option.display ++ "' cannot be used multiple times"
  | .missingValue option =>
      "a value is required for '" ++ option.display ++ "' but none was supplied"
  | .needlessValue value option =>
      "unexpected value '" ++ value ++ "' for '" ++ option.display ++
        "' found; no more were expected"
  | .invalidValue value option fault =>
      "invalid value '" ++ value ++ "' for '" ++ option.display ++ "': " ++ fault.message
  | .missingOperands operand =>
      "the following required arguments were not provided:\n  " ++ operand.display
  | .help _ => ""
  | .version => ""
  | .nothingGiven => ""

/-- This test holds for the reasons that come with the usage of the command. -/
def showsUsage (refusal : Refusal) : Bool :=
  match refusal.cause with
  | .missingValue _ => false
  | .invalidValue _ _ _ => false
  | _ => true

/-- This is the message about something wrong. -/
def errorMessage (refusal : Refusal) : String :=
  "error: " ++ refusal.complaint ++
    (if refusal.showsUsage then
      "\n\nUsage: " ++ refusal.command.usageWith refusal.used else "") ++
    (if refusal.command.hasHelp then "\n\nFor more information, try '--help'.\n" else "\n")

/-- This is the text that is printed. -/
def message (refusal : Refusal) : String :=
  match refusal.cause with
  | .help long => refusal.command.help long
  | .nothingGiven => refusal.command.help false
  | .version => programName ++ " " ++ versionNumber ++ "\n"
  | _ => refusal.errorMessage

/-- This test holds for what was asked for, which is not an error. -/
def isWanted (refusal : Refusal) : Bool :=
  match refusal.cause with
  | .help _ => true
  | .version => true
  | _ => false

def exitStatus (refusal : Refusal) : Nat :=
  if refusal.isWanted then 0 else 2

end Refusal

end SheetLint.CommandLine
