/-
This file finds the paths in a file tree that fit a pattern, segment by segment.
-/

import SheetLint.FileTree
import SheetLint.Glob.Pattern

namespace SheetLint.Glob

/-- This is the place where a search takes place: the tree, the current directory, and whether
only directories are wanted. -/
structure Ground where
  tree : FileTree
  current : Place
  directoriesOnly : Bool

namespace Ground

def isDirectory (ground : Ground) (path : Path) : Bool :=
  ground.tree.isDirectory ground.current path

/-- This test holds for the paths that may be results. -/
def wanted (ground : Ground) (path : Path) : Bool :=
  !ground.directoriesOnly || ground.isDirectory path

/-- These are the names in the directory that a path leads to. -/
def names (ground : Ground) (path : Path) : List (List Char) :=
  match ground.tree.resolve ground.current path with
  | .error _ => []
  | .ok place => ground.tree.children place

end Ground

/-- This is the path of a name in a directory. Names in the current directory stand alone. -/
def under (path : Path) (name : List Char) : Path :=
  if path.components == [.current] then ⟨name⟩ else path.join ⟨name⟩

/-- These are the paths under a directory that fit the patterns. A pattern without wildcards is
looked up, any other one is compared with all names; the one dot and the two dots of a directory
only fit a pattern that starts with a dot. -/
def search (ground : Ground) : Nat → List Pattern → Path → List Path
  | 0, _, _ => []
  | _ + 1, [], _ => []
  | fuel + 1, pattern :: patterns, path =>
      let accept (next : Path) : List Path :=
        if patterns.isEmpty then (if ground.wanted next then [next] else [])
        else search ground fuel patterns next
      match literal? pattern with
      | some name =>
          let next := under path name
          let dots := name == ['.'] || name == ['.', '.']
          if dots && ground.isDirectory path ||
              !dots && ground.tree.pathExists ground.current next then
            accept next
          else []
      | none =>
          if ground.isDirectory path then
            let compareName (pattern : Pattern) (patterns : List Pattern) (child : Path) :
                List Path :=
              match child.fileName? with
              | none => []
              | some name =>
                  if !fits pattern name then []
                  else if patterns.isEmpty then (if ground.wanted child then [child] else [])
                  else search ground fuel patterns child
            let visit (child : Path) : List Path :=
              if isRecursive pattern then
                let later := patterns.dropWhile isRecursive
                let deeper :=
                  if ground.isDirectory child then
                    search ground fuel (pattern :: later) child ++
                      (if later.isEmpty then [child] else [])
                  else []
                deeper ++ match later with
                  | [] => []
                  | next :: others => compareName next others child
              else compareName pattern patterns child
            let dotted : List Path :=
              match pattern with
              | .character '.' :: _ =>
                  ([['.'], ['.', '.']].filter (fits pattern)).flatMap fun name =>
                    accept (path.join ⟨name⟩)
              | _ => []
            (ground.names path).flatMap (fun name => visit (under path name)) ++ dotted
          else []

/-- This function cuts a text at its slashes; a slash at the end ends the last segment. -/
def segmentsOf (text : List Char) : List (List Char) :=
  let segments := Path.segmentsOf text
  if segments.getLast? == some [] then segments.dropLast else segments

/-- These are the patterns of the segments, unless one is not well formed. -/
def parseAll? : List (List Char) → Option (List Pattern)
  | [] => some []
  | segment :: segments =>
      match parse? segment, parseAll? segments with
      | some pattern, some patterns => some (pattern :: patterns)
      | _, _ => none

/-- These are the paths that fit a pattern as a whole. A pattern that is not well formed fits
nothing. -/
def expand (tree : FileTree) (current : Place) (text : List Char) : List Path :=
  let rooted := text.head? == some '/'
  let rest := if rooted then text.drop 1 else text
  match parse? text, parseAll? (segmentsOf rest) with
  | some _, some parsed =>
      let patterns := if rest.isEmpty then [[]] else parsed
      let ground : Ground := ⟨tree, current, text.getLast? == some '/'⟩
      let fuel := (patterns.length + 1) * (tree.entries.length + 2)
      search ground fuel patterns (if rooted then ⟨['/']⟩ else ⟨['.']⟩)
  | _, _ => []

end SheetLint.Glob
