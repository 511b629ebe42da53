/-
This file puts the tokens of a YAML text together to the tree of its only document.
-/

import SheetLint.Yaml.Token

namespace SheetLint.Yaml

/-- This is a part of a document. The mark is the place where its first token stands, be it an
anchor or a tag. An alias holds the number of an anchor. -/
inductive Node where
  | scalar (mark : Mark) (tag : Option String) (plain : Bool) (text : String)
  | list (mark : Mark) (tag : Option String) (items : List Node)
  | mapping (mark : Mark) (tag : Option String) (entries : List (Node × Node))
  | alias (number : Nat)

/-- This is a node with an anchor. The second number grows smaller with every later anchor. -/
structure Anchored where
  number : Nat
  left : Nat
  node : Node

/-- This is the tree of a document. There is none for a text without any document. -/
structure Document where
  content : Option Node
  anchored : List Anchored

/-- This is the state of reading: the tokens that are left, what the handles of tags stand for,
the number of every anchor's name, and the nodes with anchors. -/
structure Reading where
  tokens : List Token
  handles : List (String × String)
  names : List (String × Nat)
  anchored : List Anchored

namespace Reading

abbrev Step := StateT Reading Option

def start (tokens : List Token) : Reading :=
  ⟨tokens, [], [], []⟩

def peek : Step Token := do
  match (← get).tokens with
  | [] => failure
  | token :: _ => return token

def symbol : Step Symbol :=
  return (← peek).symbol

def skip : Step Unit :=
  modify fun reading => { reading with tokens := reading.tokens.drop 1 }

def require (expected : Symbol) : Step Unit := do
  if (← symbol) == expected then skip else failure

/-- This function skips a token if it comes next and tells whether it did. -/
def skipIf (expected : Symbol) : Step Bool := do
  if (← symbol) == expected then
    skip
    return true
  else return false

/-- This is the empty scalar that stands where something was left out. -/
def emptyScalar : Step Node :=
  return .scalar (← peek).mark none true ""

/-- This function gives a name the number of names so far, which a name that was used before does
not add to. -/
def bindName (name : String) : Step Nat := do
  let reading ← get
  let number := reading.names.length
  set { reading with names := (name, number) :: reading.names.filter fun known => known.1 != name }
  return number

/-- Of two nodes under one number the one that started later stays. -/
def keepAnchored (number left : Nat) (node : Node) : Step Unit :=
  modify fun reading =>
    if reading.anchored.any fun known => known.number == number && known.left < left then reading
    else
      { reading with
        anchored := ⟨number, left, node⟩ ::
          reading.anchored.filter fun known => known.number != number }

/-- This is the whole tag. A handle that was not declared has no meaning, except for two. -/
def resolveTag (handle suffix : String) : Step String := do
  if handle.isEmpty then return suffix
  match (← get).handles.lookup handle with
  | some start => return start ++ suffix
  | none =>
      if handle == "!!" then return "tag:yaml.org,2002:" ++ suffix
      else if handle == "!" then return "!" ++ suffix
      else failure

/-- These are the anchor and the tag in front of a node, in either order. -/
def takeProperties : Step (Option String × Option String) := do
  match ← symbol with
  | .anchor name =>
      skip
      match ← symbol with
      | .tag handle suffix =>
          skip
          return (some name, some (← resolveTag handle suffix))
      | _ => return (some name, none)
  | .tag handle suffix =>
      skip
      match ← symbol with
      | .anchor name =>
          skip
          return (some name, some (← resolveTag handle suffix))
      | _ => return (none, some (← resolveTag handle suffix))
  | _ => return (none, none)

/-- This tells where a node stands, which decides which blocks may begin there. -/
inductive Context where
  | flow
  | block
  /-- A key or a value of a block, which may also be a list that is not indented. -/
  | pair
  deriving DecidableEq

mutual

/-- This function reads a node. -/
def takeNode : Nat → Context → Step Node
  | 0, _ => failure
  | fuel + 1, context => do
      let first ← peek
      match first.symbol with
      | .alias name =>
          skip
          match (← get).names.lookup name with
          | some number => return .alias number
          | none => failure
      | _ =>
          let left := (← get).tokens.length
          let (anchor, tag) ← takeProperties
          let number ← anchor.mapM bindName
          let node ← takeContent fuel context first.mark (anchor.isSome || tag.isSome) tag
          match number with
          | some number => keepAnchored number left node
          | none => pure ()
          return node

/-- This function reads a node behind its anchor and its tag. The tag of a single exclamation mark
says nothing about a scalar. -/
def takeContent : Nat → Context → Mark → Bool → Option String → Step Node
  | 0, _, _, _, _ => failure
  | fuel + 1, context, mark, marked, tag => do
      match ← symbol with
      | .scalar plain text =>
          skip
          return .scalar mark (if tag == some "!" then none else tag) plain text
      | .openList =>
          skip
          return .list mark tag (← takeFlowItems fuel true)
      | .openMapping =>
          skip
          return .mapping mark tag (← takeFlowPairs fuel true)
      | .blockList =>
          if context == .flow then failure
          skip
          return .list mark tag (← takeBlockItems fuel)
      | .blockMapping =>
          if context == .flow then failure
          skip
          return .mapping mark tag (← takeBlockPairs fuel)
      | .dash =>
          if context == .pair then return .list mark tag (← takeLooseItems fuel)
          else if marked then return .scalar mark tag true ""
          else failure
      | _ => if marked then return .scalar mark tag true "" else failure

/-- This function reads the items of an indented list to its end. -/
def takeBlockItems : Nat → Step (List Node)
  | 0 => failure
  | fuel + 1 => do
      match ← symbol with
      | .dash =>
          skip
          let item ← match ← symbol with
            | .dash => emptyScalar
            | .blockEnd => emptyScalar
            | _ => takeNode fuel .block
          return item :: (← takeBlockItems fuel)
      | .blockEnd =>
          skip
          return []
      | _ => failure

/-- This function reads the items of a list that is not indented. -/
def takeLooseItems : Nat → Step (List Node)
  | 0 => failure
  | fuel + 1 => do
      if ← skipIf .dash then
        let item ← match ← symbol with
          | .dash => emptyScalar
          | .key => emptyScalar
          | .value => emptyScalar
          | .blockEnd => emptyScalar
          | _ => takeNode fuel .block
        return item :: (← takeLooseItems fuel)
      else return []

/-- This function reads a key or a value of a block, which may have been left out. -/
def takeBlockPart : Nat → Step Node
  | 0 => failure
  | fuel + 1 => do
      match ← symbol with
      | .key => emptyScalar
      | .value => emptyScalar
      | .blockEnd => emptyScalar
      | _ => takeNode fuel .pair

def takeBlockPairs : Nat → Step (List (Node × Node))
  | 0 => failure
  | fuel + 1 => do
      match ← symbol with
      | .key =>
          skip
          let key ← takeBlockPart fuel
          let value ← if ← skipIf .value then takeBlockPart fuel else emptyScalar
          return (key, value) :: (← takeBlockPairs fuel)
      | .blockEnd =>
          skip
          return []
      | _ => failure

/-- This function reads the items of a list in brackets. An item with a key is a mapping of one
pair. A key that was left out takes the sign behind it away. -/
def takeFlowItems : Nat → Bool → Step (List Node)
  | 0, _ => failure
  | fuel + 1, first => do
      if ← skipIf .closeList then return []
      unless first do require .comma
      let next ← peek
      match next.symbol with
      | .closeList =>
          skip
          return []
      | .key =>
          skip
          let ends := [Symbol.value, .comma, .closeList].contains (← symbol)
          let key ← if ends then emptyScalar else takeNode fuel .flow
          if ends then skip
          let value ← if ← skipIf .value then takeFlowPart fuel .closeList else emptyScalar
          return .mapping next.mark none [(key, value)] :: (← takeFlowItems fuel false)
      | _ =>
          let item ← takeNode fuel .flow
          return item :: (← takeFlowItems fuel false)

/-- This function reads a value in brackets or braces, which may have been left out. -/
def takeFlowPart : Nat → Symbol → Step Node
  | 0, _ => failure
  | fuel + 1, close => do
      let next ← symbol
      if next == .comma || next == close then emptyScalar else takeNode fuel .flow

def takeFlowPairs : Nat → Bool → Step (List (Node × Node))
  | 0, _ => failure
  | fuel + 1, first => do
      if ← skipIf .closeMapping then return []
      unless first do require .comma
      match ← symbol with
      | .closeMapping =>
          skip
          return []
      | .key =>
          skip
          let ends := [Symbol.value, .comma, .closeMapping].contains (← symbol)
          let key ← if ends then emptyScalar else takeNode fuel .flow
          let value ← if ← skipIf .value then takeFlowPart fuel .closeMapping else emptyScalar
          return (key, value) :: (← takeFlowPairs fuel false)
      | _ =>
          let key ← takeNode fuel .flow
          let value ← emptyScalar
          return (key, value) :: (← takeFlowPairs fuel false)

end

/-- This function reads the directives of a document. Nothing may be declared twice, and only two
versions are known. -/
def takeDirectives : Nat → Bool → Step Unit
  | 0, _ => failure
  | fuel + 1, versioned => do
      match ← symbol with
      | .version major minor =>
          if versioned || major != 1 || (minor != 1 && minor != 2) then failure
          skip
          takeDirectives fuel true
      | .tagDirective handle start =>
          if ((← get).handles.lookup handle).isSome then failure
          skip
          modify fun reading => { reading with handles := (handle, start) :: reading.handles }
          takeDirectives fuel versioned
      | _ => return ()

/-- This test holds for the tokens that end a document. -/
def endsDocument : Symbol → Bool
  | .version _ _ => true
  | .tagDirective _ _ => true
  | .documentStart => true
  | .documentEnd => true
  | .streamEnd => true
  | _ => false

/-- This function reads the content of the first document. -/
def takeFirst (fuel : Nat) : Step (Option Node) := do
  let next ← symbol
  if next == .streamEnd then return none
  else if endsDocument next && next != .documentEnd then
    takeDirectives fuel false
    require .documentStart
    if endsDocument (← symbol) then return some (← emptyScalar)
    else return some (← takeNode fuel .block)
  else return some (← takeNode fuel .block)

/-- This function reads the whole text, which holds one document at most. -/
def takeDocument (fuel : Nat) : Step Document := do
  let content ← takeFirst fuel
  modify fun reading => { reading with
    tokens := reading.tokens.dropWhile fun token => token.symbol == .documentEnd }
  require .streamEnd
  return ⟨content, (← get).anchored⟩

end Reading

/-- This is the document of a text. -/
def document? (text : List Char) : Option Document := do
  let tokens ← tokens? text
  let (document, _) ← (Reading.takeDocument (4 * tokens.length + 16)).run (Reading.start tokens)
  return document

namespace Document

/-- This is the node with the anchor of a number. -/
def target? (document : Document) (number : Nat) : Option Node :=
  (document.anchored.find? fun known => known.number == number).map Anchored.node

/-- This is what a node stands for. Every alias has a target, which is no alias itself. -/
def follow (document : Document) : Node → Node
  | .alias number => (document.target? number).getD (.alias number)
  | node => node

end Document

end SheetLint.Yaml
