/-
This file holds the state of a running shell. What it does to files is seen by it alone.
-/

import SheetLint.Environment
import SheetLint.Shell.Script
import SheetLint.Text.Utf8

namespace SheetLint.Shell

/-- This is where the output of a descriptor goes. What goes to a stream is kept under its
number. -/
inductive Sink where
  | stream (number : Nat)
  | dropped
  | file (place : Place)
  deriving DecidableEq

/-- This tells whether commands go on, or what they were left for. -/
inductive Stop where
  | none
  | finish
  | leaveFunction
  | leaveLoop (levels : Nat)
  | nextRound (levels : Nat)
  deriving DecidableEq

/-- This is a function with the texts behind its lines. -/
structure Function where
  name : Octets
  body : Command
  bodies : List Word

/-- This is the state of a shell. What was written to streams is kept in reverse. The line is that
of the command being run. -/
structure State where
  tree : FileTree
  directory : Place
  name : Octets
  arguments : List Octets
  bindings : List (Octets × Octets)
  exported : List Octets
  functions : List Function
  status : Nat
  line : Nat
  input : Octets
  written : List (Nat × Octets)
  streams : Nat
  sinks : List (Nat × Sink)
  exitOnFailure : Bool
  stop : Stop

namespace State

/-- This is the number of the running shell. -/
def processNumber : Octets := ['1']

/-- This is a shell that has done nothing yet. -/
def start (tree : FileTree) (directory : Place) (bindings : List (Octets × Octets))
    (name : Octets) (arguments : List Octets) (input : Octets) : State where
  tree
  directory
  name
  arguments
  bindings
  exported := bindings.map Prod.fst
  functions := []
  status := 0
  line := 1
  input
  written := []
  streams := 3
  sinks := [(1, .stream 1), (2, .stream 2)]
  exitOnFailure := false
  stop := .none

/-- This is everything that was written to a stream. -/
def writtenTo (state : State) (stream : Nat) : Octets :=
  ((state.written.filter fun piece => piece.1 == stream).map Prod.snd).reverse.flatten

def sinkOf (state : State) (descriptor : Nat) : Sink :=
  (state.sinks.lookup descriptor).getD .dropped

def setSink (state : State) (descriptor : Nat) (sink : Sink) : State :=
  { state with sinks := (descriptor, sink) ::
      state.sinks.filter fun entry => entry.1 != descriptor }

/-- This function adds to the end of a file. -/
def appendTo (tree : FileTree) (place : Place) (bytes : Bytes) : FileTree :=
  match tree.get? place with
  | some (.file content executable) => tree.set place (.file (content ++ bytes) executable)
  | _ => tree

def writeTo (state : State) (descriptor : Nat) (text : Octets) : State :=
  match state.sinkOf descriptor with
  | .stream number => { state with written := (number, text) :: state.written }
  | .dropped => state
  | .file place => { state with tree := appendTo state.tree place (bytesOfOctets text) }

def write (state : State) (text : Octets) : State :=
  state.writeTo 1 text

def fail (state : State) (status : Nat) : State :=
  { state with status }

/-- This is the failure of a program, which says why in pieces that are written one after the
other. -/
def complain (state : State) (status : Nat) (reason : List Octets) : State :=
  (state.writeTo 2 (reason.flatten ++ ['\n'])).fail status

/-- This is a failure of the shell itself, which tells the script and the line. -/
def fault (state : State) (status : Nat) (reason : List Octets) : State :=
  state.complain status
    ([state.name, ": ".toList, Nat.toDigits 10 state.line, ": ".toList] ++ reason)

/-- This is a failure that ends the shell. -/
def abort (state : State) (reason : List Octets) : State :=
  { state.fault 2 reason with stop := .finish }

/-- This function writes and succeeds. -/
def print (state : State) (text : Octets) : State :=
  { state.write text with status := 0 }

/-- This is a name of a file in characters. -/
def fileText (octets : Octets) : List Char :=
  match Text.decodeUtf8 (bytesOfOctets octets) with
  | .ok text => text
  | .error _ => octets

def pathOf (octets : Octets) : Path :=
  ⟨fileText octets⟩

def nullDevice : Octets := "/dev/null".toList

/-- This is the content of a file. -/
def readFile (state : State) (name : Octets) : Except OsError Octets :=
  if name == nullDevice then .ok []
  else if name == "/dev/stdin".toList then .ok state.input
  else (state.tree.readBytes state.directory (pathOf name)).map octetsOfBytes

/-- This is the place of a file that is to be written, which may be new. -/
def placeToWrite (state : State) (name : Octets) : Except OsError Place :=
  let path := pathOf name
  match state.tree.resolve state.directory path with
  | .ok place => if state.tree.isDirectoryAt place then .error .isDirectory else .ok place
  | .error .notFound =>
      match path.fileName?, path.parent? with
      | some file, some parent =>
          let upper := if parent.characters.isEmpty then ⟨['.']⟩ else parent
          (state.tree.resolve state.directory upper).map fun place => place ++ [file]
      | _, _ => .error .notFound
  | .error cause => .error cause

/-- This is how the shell words the failure to open a file. -/
def openReason (missing : String) : OsError → Octets
  | .notFound => missing.toList
  | .notDirectory => missing.toList
  | cause => cause.description.toList

/-- This function lets the output of a descriptor go to a file. -/
def openFile (state : State) (descriptor : Nat) (append : Bool) (name : Octets) :
    Except OsError State :=
  if name == nullDevice then .ok (state.setSink descriptor .dropped)
  else if name == "/dev/stdout".toList then .ok (state.setSink descriptor (state.sinkOf 1))
  else if name == "/dev/stderr".toList then .ok (state.setSink descriptor (state.sinkOf 2))
  else
    (state.placeToWrite name).map fun place =>
      let tree := match append, state.tree.get? place with
        | true, some _ => state.tree
        | _, some (.file _ executable) => state.tree.set place (.file [] executable)
        | _, _ => state.tree.set place (.file [] false)
      { state with tree }.setSink descriptor (.file place)

/-- This function makes one descriptor go where another one goes, or nowhere. -/
def copySink (state : State) (descriptor : Nat) (target : Octets) : State :=
  if descriptor == 0 then (if target == ['-'] then { state with input := [] } else state)
  else
    match (String.ofList target).toNat? with
    | some other => state.setSink descriptor (state.sinkOf other)
    | none => state.setSink descriptor .dropped

def setVariable (state : State) (name value : Octets) : State :=
  { state with bindings := (name, value) ::
      state.bindings.filter fun entry => entry.1 != name }

def exportVariable (state : State) (name : Octets) : State :=
  { state with exported := name :: state.exported.filter (· != name) }

/-- These are the variables that another program gets to see. -/
def exportedVariables (state : State) : List (Octets × Octets) :=
  state.bindings.filter fun entry => state.exported.contains entry.1

/-- This is the value of a parameter, if it has one. -/
def valueOf? (state : State) (name : Octets) : Option Octets :=
  match name with
  | ['@'] => some ([' '].intercalate state.arguments)
  | ['*'] => some ([' '].intercalate state.arguments)
  | ['#'] => some (Nat.toDigits 10 state.arguments.length)
  | ['?'] => some (Nat.toDigits 10 state.status)
  | ['$'] => some processNumber
  | ['!'] => none
  | ['-'] => some []
  | ['0'] => some state.name
  | _ =>
      match (String.ofList name).toNat? with
      | some position => state.arguments[position - 1]?
      | none => state.bindings.lookup name

/-- This function takes over what a shell inside this one did to files, input and output. -/
def leaveSubshell (state inner : State) : State :=
  { state with
    tree := inner.tree
    input := inner.input
    written := inner.written
    status := inner.status }

/-- This is a shell inside this one whose output goes to a stream of its own. -/
def gathering (state : State) : State :=
  { state.setSink 1 (.stream state.streams) with streams := state.streams + 1 }

/-- This function takes the output that such a shell gathered. -/
def gathered (state inner : State) : Octets × State :=
  (inner.writtenTo state.streams,
    { inner with written := inner.written.filter fun piece => piece.1 != state.streams })

end State

end SheetLint.Shell
