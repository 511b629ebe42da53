/-
This file gives the parts of a YAML document their values. A value can be read only when no
mapping holds a key twice, all numbers are small enough and nothing lies too deep.
-/

import SheetLint.Decimal.Layout
import SheetLint.Decimal.Nearest
import SheetLint.Found
import SheetLint.Yaml.Node

namespace SheetLint.Yaml

open SheetLint.Text

inductive Scalar where
  | null
  | boolean (value : Bool)
  | integer (value : Int)
  | floating (value : Float)
  | text (value : String)

/-- Floating point numbers are always written positionally. -/
def numberLayout : Decimal.Layout := ⟨-400, 400⟩

/-- This is what a message shows of a scalar. -/
def Scalar.found : Scalar → Found
  | .null => .null "unit value"
  | .boolean value => .boolean value
  | .integer value => .integer value
  | .floating value => .floating (numberLayout.writeFloat value)
  | .text value => .text value

def isNullWord (text : String) : Bool :=
  ["null", "Null", "NULL", "~"].contains text

/-- This test holds for plain scalars that stand for nothing. -/
def isNothing (text : String) : Bool :=
  text.isEmpty || isNullWord text

def parseBoolean? (text : String) : Option Bool :=
  if ["true", "True", "TRUE"].contains text then some true
  else if ["false", "False", "FALSE"].contains text then some false
  else none

/-- This test holds for digits with a needless zero in front, which are no number. -/
def hasNeedlessZero (text : List Char) : Bool :=
  match (splitSign text).2 with
  | '0' :: digit :: digits => (digit :: digits).all isDigit
  | _ => false

/-- This is the number that digits in a base stand for; there must be at least one. -/
def parseDigits? (base : Nat) (isMember : Char → Bool) (digits : List Char) : Option Nat :=
  if !digits.isEmpty && digits.all isMember then some (ofDigits base digits) else none

/-- These are whole numbers behind their sign. -/
def parseMagnitude? : List Char → Option Nat
  | '0' :: 'x' :: digits => parseDigits? 16 isHexDigit digits
  | '0' :: 'o' :: digits => parseDigits? 8 isOctalDigit digits
  | '0' :: 'b' :: digits => parseDigits? 2 isBinaryDigit digits
  | text => if hasNeedlessZero text then none else parseDigits? 10 isDigit text

/-- Whole numbers have at most 128 bits. -/
def parseInteger? (text : List Char) : Option Int :=
  let (negative, rest) := splitSign text
  match parseMagnitude? rest with
  | none => none
  | some magnitude =>
      if negative then (if magnitude ≤ Nat.pow 2 127 then some (-(magnitude : Int)) else none)
      else if magnitude < Nat.pow 2 128 then some magnitude else none

/-- This is a floating point number that is written in decimal digits. -/
def parseDecimal? (text : List Char) : Option Float := do
  let (negative, unsigned) := splitSign text
  let (mantissa, exponent) :=
    splitWhere (fun character => character == 'e' || character == 'E') unsigned
  let (whole, fraction) := splitWhere (· == '.') mantissa
  let places := fraction.getD []
  let digits ← parseDigits? 10 isDigit (whole ++ places)
  let power ← match exponent with
    | none => some 0
    | some marked =>
        let (falling, power) := splitSign marked
        (parseDigits? 10 isDigit power).map fun (power : Nat) =>
          if falling then -(power : Int) else power
  let magnitude ← Decimal.nearestFloat? ⟨digits, power - places.length⟩
  return if negative then -magnitude else magnitude

def parseFloat? (text : String) : Option Float :=
  if [".inf", ".Inf", ".INF", "+.inf", "+.Inf", "+.INF"].contains text then some (1 / 0)
  else if ["-.inf", "-.Inf", "-.INF"].contains text then some (-(1 / 0))
  else if [".nan", ".NaN", ".NAN"].contains text then some (0 / 0)
  else parseDecimal? text.toList

/-- This is the value of a scalar without quotes and without a tag. -/
def plainScalar (text : String) : Scalar :=
  if isNothing text then .null
  else
    match parseBoolean? text with
    | some value => .boolean value
    | none =>
        match parseInteger? text.toList with
        | some value => .integer value
        | none =>
            if hasNeedlessZero text.toList then .text text
            else
              match parseFloat? text with
              | some value => .floating value
              | none => .text text

/-- This function starts the tags of YAML's own types. -/
def coreTag (name : String) : String :=
  "tag:yaml.org,2002:" ++ name

/-- This is the rest of a tag that starts with an exclamation mark. -/
def localTag? (tag : Option String) : Option String :=
  match tag.map String.toList with
  | some ('!' :: name) => some (String.ofList name)
  | _ => none

/-- This is the value of a scalar. Four tags demand a type; other tags of that kind make it text. -/
def scalarOf (tag : Option String) (plain : Bool) (text : String) : Except Misfit Scalar :=
  let demand (expected : String) : Option Scalar → Except Misfit Scalar
    | some value => .ok value
    | none => .error (.value (.text text) expected)
  let untyped := if plain then plainScalar text else .text text
  match tag with
  | none => .ok untyped
  | some name =>
      if name = coreTag "bool" then demand "a boolean" ((parseBoolean? text).map .boolean)
      else if name = coreTag "int" then
        demand "an integer" ((parseInteger? text.toList).map .integer)
      else if name = coreTag "float" then demand "a float" ((parseFloat? text).map .floating)
      else if name = coreTag "null" then
        demand "null" (if isNullWord text then some .null else none)
      else if (localTag? tag).isSome then .ok untyped
      else .ok (.text text)

inductive Value where
  | scalar (value : Scalar)
  | list (items : List Value)
  | mapping (entries : List (Value × Value))
  | tagged (tag : String) (value : Value)

def Scalar.same : Scalar → Scalar → Bool
  | .null, .null => true
  | .boolean value, .boolean other => value == other
  | .integer value, .integer other => value == other
  | .floating value, .floating other => value == other || (value.isNaN && other.isNaN)
  | .text value, .text other => value == other
  | _, _ => false

/-- This test holds for equal values. The order of a mapping does not count. -/
def Value.same : Nat → Value → Value → Bool
  | 0, _, _ => false
  | _ + 1, .scalar value, .scalar other => value.same other
  | fuel + 1, .list items, .list others =>
      items.length == others.length &&
        (items.zip others).all fun pair => Value.same fuel pair.1 pair.2
  | fuel + 1, .mapping entries, .mapping others =>
      entries.length == others.length &&
        entries.all fun entry => others.any fun other =>
          Value.same fuel entry.1 other.1 && Value.same fuel entry.2 other.2
  | fuel + 1, .tagged tag value, .tagged name other => tag == name && Value.same fuel value other
  | _, _, _ => false

namespace Document

/-- Lists and mappings may lie that deep in each other. -/
def depthLimit : Nat := 128

/-- This is enough for two values within the depth limit, each part of which may have a tag. -/
def sameFuel : Nat := 2 * depthLimit + 2

/-- This test holds for numbers that a value can hold. -/
def isSmall : Scalar → Bool
  | .integer value => -(Nat.pow 2 63 : Int) ≤ value && value < Nat.pow 2 64
  | _ => true

/-- This function follows an alias; every alias counts. -/
def followCounted (document : Document) : Node → StateT Nat Option Node
  | .alias number => do
      match ← get with
      | 0 => failure
      | left + 1 =>
          set left
          match document.target? number with
          | some target => return target
          | none => failure
  | node => return node

/-- This function puts a local tag around a value. An exclamation mark alone is no tag. -/
def wrapTag (tag : Option String) (value : Value) : StateT Nat Option Value :=
  match localTag? tag with
  | none => return value
  | some name => if name.isEmpty then failure else return .tagged name value

/-- This function reads the value of a node. The state is the number of aliases that may still be
followed. -/
def readNode (document : Document) : Nat → Node → StateT Nat Option Value
  | depth, node => do
      match ← document.followCounted node with
      | .alias _ => failure
      | .scalar _ tag plain text =>
          match scalarOf tag plain text with
          | .ok value => if isSmall value then wrapTag tag (.scalar value) else failure
          | .error _ => failure
      | .list _ tag items =>
          match depth with
          | 0 => failure
          | depth + 1 => wrapTag tag (.list (← items.mapM (document.readNode depth)))
      | .mapping _ tag entries =>
          match depth with
          | 0 => failure
          | depth + 1 =>
              let gathered ← entries.foldlM (fun (gathered : List (Value × Value)) entry => do
                let key ← document.readNode depth entry.1
                if gathered.any fun known => Value.same sameFuel known.1 key then failure
                let value ← document.readNode depth entry.2
                return gathered ++ [(key, value)]) []
              wrapTag tag (.mapping gathered)

mutual

/-- This is the number of scalars and aliases and of starts and ends of everything else. -/
def countNode : Node → Nat
  | .scalar _ _ _ _ => 1
  | .alias _ => 1
  | .list _ _ items => 2 + countItems items
  | .mapping _ _ entries => 2 + countEntries entries

def countItems : List Node → Nat
  | [] => 0
  | item :: items => countNode item + countItems items

def countEntries : List (Node × Node) → Nat
  | [] => 0
  | (key, value) :: entries => countNode key + countNode value + countEntries entries

end

/-- This is the value of a document; a text without any document counts as null. -/
def value? (document : Document) : Option Value :=
  match document.content with
  | none => some (.scalar .null)
  | some node => ((document.readNode depthLimit node).run (100 * countNode node)).map Prod.fst

end Document

end SheetLint.Yaml
