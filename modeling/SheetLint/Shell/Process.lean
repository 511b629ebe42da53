/-
This file runs processes with the shell.
-/

import SheetLint.Host
import SheetLint.Shell.Evaluation

namespace SheetLint.Shell

/-- This many steps are enough for every script that is not meant to run for ever. -/
def stepLimit : Nat := 10000000

/-- These are the names of the programs of the system. -/
def systemPrograms : List (List Char) :=
  ["sh", "dash", "env", "cat", "head", "echo", "printf", "pwd", "test", "[", "true", "false",
    "wc", "tr", "basename", "dirname", "sleep", "kill"].map String.toList

/-- This function puts the programs of the system into a tree. -/
def installPrograms (tree : FileTree) : FileTree :=
  [["bin"], ["usr", "bin"]].foldl (fun (tree : FileTree) (directory : List String) =>
    let place : Place := directory.map String.toList
    systemPrograms.foldl (fun tree name => tree.set (place ++ [name]) (.command name))
      (tree.addDirectory place)) tree

/-- This is what a process writes in a tree. -/
def execute (tree : FileTree) (execution : Execution) : Streams :=
  let bindings := execution.environment.map fun entry =>
    (octetsOfString entry.1, octetsOfString entry.2)
  let state := State.start tree execution.directory bindings ['s', 'h'] []
    (octetsOfBytes execution.input)
  let arguments := execution.arguments.map octetsOfString
  let ended := match execution.executable with
    | .command name => state.runProgram stepLimit name arguments
    | .script place =>
        let name := if execution.name.toList.contains '/' then execution.name
          else place.path.toString
        state.runFile stepLimit (octetsOfString name) arguments
  ⟨bytesOfOctets (ended.writtenTo 1), bytesOfOctets (ended.writtenTo 2)⟩

/-- This is a host whose processes are shell scripts. -/
def host (tree : FileTree) (current : Place) : Host :=
  let installed := installPrograms tree
  ⟨installed, current, execute installed⟩

end SheetLint.Shell
