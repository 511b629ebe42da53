/-
This file holds what a command line asks for.
-/

import SheetLint.CommandLine.Reader
import SheetLint.Configuration

namespace SheetLint

/-- This is what is asked for. -/
inductive Order where
  | version
  | lint (patterns : List String) (overrides : Overrides) (force : Bool)
  | parse (input : Option String) (offset : Nat) (output : Option String)
  deriving DecidableEq, Repr

structure CommandLine where
  verbose : Bool
  order : Order
  deriving DecidableEq, Repr

namespace CommandLine

/-- This function follows the names of commands and prints the help for the last one. -/
def refuseForHelp (form : CommandForm) : List String → Refusal
  | [] => ⟨.help true, form, []⟩
  | name :: names =>
      match form.command? name with
      | some inner => refuseForHelp inner names
      | none => ⟨.unknownCommand name, form, []⟩

/-- This is the order that was given to a command. -/
def orderOf (name : String) (gathered : Gathered) : Order :=
  if name = "version" then .version
  else if name = "lint" then
    .lint gathered.operands
      { root := gathered.valueOf? .repoRoot
        executable := gathered.valueOf? .executable
        workingDirectory := gathered.valueOf? .workingDir
        output := gathered.valueOf? .output }
      (gathered.hasOption .force)
  else
    let offset := match (gathered.valueOf? .offset).map readNumber with
      | some (.ok number) => number
      | _ => 0
    .parse (gathered.valueOf? .input) offset (gathered.valueOf? .output)

/-- This function reads the arguments behind the name of a command. -/
def readInner (name : String) (form : CommandForm) (arguments : List String) :
    Except Refusal Gathered := do
  if name = "help" then throw (refuseForHelp mainCommand arguments)
  (← (Gathered.start form).readArguments false arguments).gathered.finish

/-- This function reads a command line. Verbosity may be asked for before and behind the name of
the command. -/
def read (arguments : List String) : Except Refusal CommandLine := do
  let outer ← (Gathered.start mainCommand).readArguments false arguments
  match outer.inner with
  | none =>
      let gathered ← outer.gathered.finish
      throw (gathered.refusal (if gathered.given.isEmpty then .nothingGiven else .missingCommand))
  | some (name, rest) =>
      match mainCommand.command? name with
      | none => throw (outer.gathered.refusal (.unknownCommand name))
      | some form =>
          let inner ← readInner name form rest
          let verbose := outer.gathered.hasOption .verbose || inner.hasOption .verbose
          return ⟨verbose, orderOf name inner⟩

end CommandLine

end SheetLint
