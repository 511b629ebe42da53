/-
This file holds paths as texts. A path is taken apart at its slashes; repeated slashes and dots
after the first component mean nothing.
-/

namespace SheetLint

/-- This is a path as it is written. -/
structure Path where
  characters : List Char
  deriving DecidableEq, Repr

namespace Path

/-- This is a part of a path between slashes. -/
inductive Component where
  | root
  | current
  | parent
  | normal (name : List Char)
  deriving DecidableEq, Repr

def ofString (text : String) : Path :=
  ⟨text.toList⟩

protected def toString (path : Path) : String :=
  String.ofList path.characters

instance : ToString Path := ⟨Path.toString⟩

def isAbsolute (path : Path) : Bool :=
  path.characters.head? == some '/'

/-- This function cuts a text at its slashes and keeps empty segments. -/
def segmentsOf : List Char → List (List Char)
  | [] => [[]]
  | character :: rest =>
      if character == '/' then [] :: segmentsOf rest
      else
        match segmentsOf rest with
        | [] => [[character]]
        | segment :: segments => (character :: segment) :: segments

/-- This function writes segments with slashes between them. -/
def joinSegments (segments : List (List Char)) : List Char :=
  ['/'].intercalate segments

/-- This test holds for a segment that names nothing. -/
def isTrivial (segment : List Char) : Bool :=
  segment == [] || segment == ['.']

/-- This is the component that a segment behind the first one stands for. -/
def componentOf (segment : List Char) : Component :=
  if segment == ['.', '.'] then .parent else .normal segment

/-- These are the segments of a path behind the slash of the root. -/
def segments (path : Path) : List (List Char) :=
  segmentsOf (if path.isAbsolute then path.characters.drop 1 else path.characters)

/-- This test holds for a relative path that starts with a dot of its own. -/
def startsWithDot (path : Path) : Bool :=
  !path.isAbsolute && path.segments.head? == some ['.']

/-- These are the components in their order. A dot counts only at the start of a relative path. -/
def components (path : Path) : List Component :=
  let start : List Component :=
    if path.isAbsolute then [.root] else if path.startsWithDot then [.current] else []
  start ++ (path.segments.filter fun segment => !isTrivial segment).map componentOf

/-- This function drops the trivial segments at the end, but not a dot that starts a path. -/
def dropTrivialEnd (keepsDot : Bool) (segments : List (List Char)) : List (List Char) :=
  let kept := (segments.reverse.dropWhile isTrivial).reverse
  if kept.isEmpty && keepsDot then segments.take 1 else kept

/-- This is the path without its last component, unless there is none to leave out. -/
def parent? (path : Path) : Option Path :=
  let segments := dropTrivialEnd path.startsWithDot path.segments
  if segments.isEmpty then none
  else
    let keepsDot := path.startsWithDot && 1 < segments.length
    let shorter := dropTrivialEnd keepsDot segments.dropLast
    some ⟨(if path.isAbsolute then ['/'] else []) ++ joinSegments shorter⟩

/-- These are the path and its parents as far as its text goes. -/
def upward : Nat → Path → List Path
  | 0, path => [path]
  | fuel + 1, path =>
      path :: match path.parent? with
        | none => []
        | some parent => upward fuel parent

/-- This is the first of the path and its parents that passes. Every parent is shorter, so its
length bounds the search. -/
def firstUpward (path : Path) (passes : Path → Bool) : Option Path :=
  (upward path.characters.length path).find? passes

/-- This is the second path as seen from the first one. -/
def join (base path : Path) : Path :=
  if path.isAbsolute then path
  else if base.characters.isEmpty || base.characters.getLast? == some '/' then
    ⟨base.characters ++ path.characters⟩
  else ⟨base.characters ++ '/' :: path.characters⟩

/-- This is the last component when it is an ordinary name. -/
def fileName? (path : Path) : Option (List Char) :=
  match path.components.getLast? with
  | some (.normal name) => some name
  | _ => none

/-- This is the part of a file name behind its last dot. A name whose only dot is its first
character has none. -/
def extensionOf? (name : List Char) : Option (List Char) :=
  let after := (name.reverse.takeWhile (· != '.')).reverse
  let before := (name.reverse.dropWhile (· != '.')).drop 1
  if before.isEmpty then none else some after

def extension? (path : Path) : Option (List Char) :=
  path.fileName?.bind extensionOf?

/-- This is the text of one component. -/
def Component.text : Component → List Char
  | .root => ['/']
  | .current => ['.']
  | .parent => ['.', '.']
  | .normal name => name

/-- This function puts components together again. -/
def ofComponents (components : List Component) : Path :=
  components.foldl (fun path component => path.join ⟨component.text⟩) ⟨[]⟩

/-- This is the rank of a kind of component in the order of paths. -/
def Component.rank : Component → Nat
  | .root => 0
  | .current => 1
  | .parent => 2
  | .normal _ => 3

/-- This order compares texts by their code points. -/
def compareTexts : List Char → List Char → Ordering
  | [], [] => .eq
  | [], _ :: _ => .lt
  | _ :: _, [] => .gt
  | first :: rest, other :: others =>
      match compare first.toNat other.toNat with
      | .eq => compareTexts rest others
      | different => different

def Component.compare : Component → Component → Ordering
  | .normal name, .normal other => compareTexts name other
  | component, other => Ord.compare component.rank other.rank

/-- This order compares component lists from the first component on. -/
def compareComponents : List Component → List Component → Ordering
  | [], [] => .eq
  | [], _ :: _ => .lt
  | _ :: _, [] => .gt
  | first :: rest, other :: others =>
      match first.compare other with
      | .eq => compareComponents rest others
      | different => different

/-- This is the order of paths; two spellings of the same components are equal in it. -/
def compare (path other : Path) : Ordering :=
  compareComponents path.components other.components

/-- This function goes through the components of a path and of its base at the same time and
gathers, in reverse, the way from the base to the path. -/
def relativeFrom (gathered : List Component) :
    List Component → List Component → Option (List Component)
  | [], [] => some gathered.reverse
  | component :: components, [] => some (gathered.reverse ++ component :: components)
  | [], _ :: base => relativeFrom (.parent :: gathered) [] base
  | component :: components, other :: base =>
      if gathered.isEmpty && component == other then relativeFrom [] components base
      else if other == .current then relativeFrom (component :: gathered) components base
      else if other == .parent then none
      else
        some (gathered.reverse ++ .parent :: base.map (fun _ => .parent) ++
          component :: components)

/-- This is the way from a base to a path, unless it cannot be told from the texts. -/
def relativeTo? (path base : Path) : Option Path :=
  if path.isAbsolute == base.isAbsolute then
    (relativeFrom [] path.components base.components).map ofComponents
  else if path.isAbsolute then some path
  else none

/-- This is the name that a report shows for a path: the way from the root when the path lies
under it, and the path itself otherwise. -/
def displayUnder (path root : Path) : Path :=
  match path.relativeTo? root with
  | some relative => if relative.components.head? == some .parent then path else relative
  | none => path

/-- This is the path as seen from the top of the file tree. Two slashes at the start and a slash
at the end stay as they are; everything else is put together from components. -/
def absolute (current path : Path) : Path :=
  let components := path.components.filter (· != .current)
  let start : Path :=
    if !path.isAbsolute then current
    else if path.characters.take 2 == ['/', '/'] && path.characters.take 3 != ['/', '/', '/'] then
      ⟨['/', '/']⟩
    else ⟨['/']⟩
  let whole := (components.filter (· != .root)).foldl
    (fun path component => path.join ⟨component.text⟩) start
  if path.characters.getLast? == some '/' then whole.join ⟨[]⟩ else whole

end Path

end SheetLint
