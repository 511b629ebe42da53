/-
This file holds what surrounds the program: files, a current directory and processes.
-/

import SheetLint.Environment
import SheetLint.FileTree

namespace SheetLint

/-- This is what a call leads to: a program of the system, or a script at a place. -/
inductive Executable where
  | command (name : List Char)
  | script (place : Place)
  deriving DecidableEq

/-- This is a process about to run: what is executed, under which name, with what arguments, in
which directory, with which variables and with what on its standard input. -/
structure Execution where
  executable : Executable
  name : String
  arguments : List String
  directory : Place
  environment : Environment
  input : Bytes

/-- This is what an execution writes to its standard output and to its standard error output. -/
structure Streams where
  output : Bytes
  errors : Bytes
  deriving DecidableEq

/-- These are the files, the current directory, and what an execution writes. Running something
changes no file. -/
structure Host where
  tree : FileTree
  current : Place
  execute : Execution → Streams

namespace Host

def pathExists (host : Host) (path : Path) : Bool :=
  host.tree.pathExists host.current path

def isFile (host : Host) (path : Path) : Bool :=
  host.tree.isFile host.current path

def readText (host : Host) (path : Path) : Except OsError String :=
  host.tree.readText host.current path

/-- This is the absolute path of the current directory. -/
def directory (host : Host) : Path :=
  host.current.path

end Host

end SheetLint
