/-
This file holds file trees without links and follows paths through them.
-/

import SheetLint.OsError
import SheetLint.Path
import SheetLint.Text.Measure
import SheetLint.Text.Utf8

namespace SheetLint

abbrev Bytes := List UInt8

/-- This is a place in a tree: the names on the way from its top. -/
abbrev Place := List (List Char)

/-- This is what stands at a place. -/
inductive Entry where
  | file (content : Bytes) (executable : Bool)
  /-- A program of the system. What is in its file does not matter. -/
  | command (name : List Char)
  | directory
  deriving DecidableEq

/-- This is a tree as a list of its places. The top is a directory without being listed. -/
structure FileTree where
  entries : List (Place × Entry)
  deriving DecidableEq

namespace FileTree

/-- This is what stands at a place, if anything does. -/
def get? (tree : FileTree) : Place → Option Entry
  | [] => some .directory
  | place => tree.entries.lookup place

def isDirectoryAt (tree : FileTree) (place : Place) : Bool :=
  tree.get? place == some .directory

/-- These are the names in the directory at a place. -/
def children (tree : FileTree) (place : Place) : List (List Char) :=
  tree.entries.filterMap fun entry =>
    if entry.1.dropLast == place then entry.1.getLast? else none

/-- This function puts an entry at a place and takes away what stood there. -/
def set (tree : FileTree) (place : Place) (entry : Entry) : FileTree :=
  ⟨tree.entries.filter (fun other => other.1 != place) ++ [(place, entry)]⟩

/-- This function makes the directory at a place and all directories above it. -/
def addDirectory (tree : FileTree) (place : Place) : FileTree :=
  (List.range place.length).foldl (fun tree count =>
    let upper := place.take (count + 1)
    if (tree.get? upper).isSome then tree else tree.set upper .directory) tree

/-- This function puts a file at a place and makes the directories above it. -/
def addFile (tree : FileTree) (place : Place) (content : Bytes) (executable : Bool) : FileTree :=
  (tree.addDirectory place.dropLast).set place (.file content executable)

/-- This function takes away a place with everything under it. -/
def remove (tree : FileTree) (place : Place) : FileTree :=
  ⟨tree.entries.filter fun entry => !place.isPrefixOf entry.1⟩

/-- A name may have that many bytes. -/
def nameLimit : Nat := 255

/-- A path must have fewer bytes than this. -/
def pathLimit : Nat := 4096

/-- This function goes one segment further. Only from a directory can one go anywhere, even to
the same place. -/
def step (tree : FileTree) (place : Place) (segment : List Char) : Except OsError Place :=
  if !tree.isDirectoryAt place then .error .notDirectory
  else if Path.isTrivial segment then .ok place
  else if segment == ['.', '.'] then .ok place.dropLast
  else if nameLimit < Text.byteCount segment then .error .nameTooLong
  else if (tree.get? (place ++ [segment])).isSome then .ok (place ++ [segment])
  else .error .notFound

/-- This function follows the segments in their order. -/
def follow (tree : FileTree) : Place → List (List Char) → Except OsError Place
  | place, [] => .ok place
  | place, segment :: segments =>
      match tree.step place segment with
      | .error cause => .error cause
      | .ok further => tree.follow further segments

/-- This is the place that a path leads to from the current directory. -/
def resolve (tree : FileTree) (current : Place) (path : Path) : Except OsError Place :=
  if path.characters.contains '\u0000' then .error .zeroInPath
  else if path.characters.isEmpty then .error .notFound
  else if pathLimit ≤ Text.byteCount path.characters then .error .nameTooLong
  else tree.follow (if path.isAbsolute then [] else current) path.segments

/-- This is what a path leads to. -/
def lookup? (tree : FileTree) (current : Place) (path : Path) : Option Entry :=
  match tree.resolve current path with
  | .error _ => none
  | .ok place => tree.get? place

def pathExists (tree : FileTree) (current : Place) (path : Path) : Bool :=
  (tree.lookup? current path).isSome

def isDirectory (tree : FileTree) (current : Place) (path : Path) : Bool :=
  tree.lookup? current path == some .directory

def isFile (tree : FileTree) (current : Place) (path : Path) : Bool :=
  match tree.lookup? current path with
  | some (.file _ _) => true
  | some (.command _) => true
  | _ => false

/-- This is the content of the file that a path leads to. -/
def readBytes (tree : FileTree) (current : Place) (path : Path) : Except OsError Bytes :=
  match tree.resolve current path with
  | .error cause => .error cause
  | .ok place =>
      match tree.get? place with
      | some (.file content _) => .ok content
      | some (.command _) => .ok []
      | some .directory => .error .isDirectory
      | none => .error .notFound

/-- This is the content of a file as text. -/
def readText (tree : FileTree) (current : Place) (path : Path) : Except OsError String :=
  match tree.readBytes current path with
  | .error cause => .error cause
  | .ok content =>
      match Text.decodeUtf8 content with
      | .ok text => .ok (String.ofList text)
      | .error _ => .error .notText

end FileTree

/-- This is the absolute path of a place. -/
def Place.path (place : Place) : Path :=
  ⟨'/' :: Path.joinSegments place⟩

end SheetLint
