/-
This file runs the program on the files in the current directory. The processes that it starts are
run by the shell of this library.
-/

import SheetLint.Program
import SheetLint.Shell.Process

namespace SheetLint.Main

/-- This function puts a file into a tree. A file that starts like a script may be run. -/
def addFileFrom (tree : FileTree) (place : Place) (content : Bytes) : FileTree :=
  tree.addFile place content (Interpreter.read? content).isSome

/-- This function puts the entries of a directory with everything under them into a tree. What
cannot be read is left out. -/
partial def addEntries (tree : FileTree) (place : Place) (entries : List IO.FS.DirEntry) :
    IO FileTree :=
  entries.foldlM (fun tree entry => do
    let inner := place ++ [entry.fileName.toList]
    try
      if ← entry.path.isDir then
        addEntries (tree.addDirectory inner) inner (← entry.path.readDir).toList
      else return addFileFrom tree inner (← IO.FS.readBinFile entry.path).toList
    catch _ => return tree) tree

def readInput : IO Bytes := do
  return (← (← IO.getStdin).readBinToEnd).toList

/-- The standard input is only read where the program may want it. -/
def wantsInput (arguments : List String) : Bool :=
  arguments.contains "parse"

def printNotice : Notice → IO Unit
  | .text text => IO.eprint text
  | .log message => IO.eprintln message

end SheetLint.Main

open SheetLint in
def main (arguments : List String) : IO UInt32 := do
  let directory ← IO.currentDir
  let place : Place := (Path.ofString directory.toString).segments.filter fun segment =>
    !segment.isEmpty
  let tree ← Main.addEntries ((FileTree.mk []).addDirectory place) place
    (← directory.readDir).toList
  let input ← if Main.wantsInput arguments then Main.readInput else pure []
  let colourless := (← IO.getEnv "NO_COLOR").isSome
  let result := Program.run ⟨Shell.host tree place, input, colourless⟩ arguments
  result.notices.forM Main.printNotice
  IO.print result.output
  return result.exitStatus.toUInt32
