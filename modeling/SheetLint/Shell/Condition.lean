/-
This file evaluates the conditions of the test command.
-/

import SheetLint.Shell.Format
import SheetLint.Shell.State

namespace SheetLint.Shell.State

def isWhole (text : Octets) : Bool :=
  let digits := (Text.splitSign text).2
  !digits.isEmpty && digits.all Text.isDigit

/-- This is the result of a test of one operand. -/
def testOne (state : State) (operator operand : Octets) : Option Bool :=
  let path := pathOf operand
  let found := state.tree.lookup? state.directory path
  match String.ofList operator with
  | "-n" => some !operand.isEmpty
  | "-z" => some operand.isEmpty
  | "-e" => some found.isSome
  | "-f" => some (state.tree.isFile state.directory path)
  | "-d" => some (state.tree.isDirectory state.directory path)
  | "-r" => some found.isSome
  | "-w" => some found.isSome
  | "-s" =>
      some <| match found with
        | some (.file content _) => !content.isEmpty
        | some _ => true
        | none => false
  | "-x" =>
      some <| match found with
        | some (.file _ executable) => executable
        | some _ => true
        | none => false
  | "-h" => some false
  | "-L" => some false
  | "-t" => some false
  | _ => none

/-- This is the result of a test of two operands. -/
def testTwo (left operator right : Octets) : Option Bool :=
  let numbers (compare : Int → Int → Bool) : Option Bool :=
    if isWhole left && isWhole right then some (compare (numberOf left) (numberOf right)) else none
  match String.ofList operator with
  | "=" => some (left == right)
  | "!=" => some (left != right)
  | "-eq" => numbers fun left right => left == right
  | "-ne" => numbers fun left right => left != right
  | "-lt" => numbers fun left right => left < right
  | "-le" => numbers fun left right => left ≤ right
  | "-gt" => numbers fun left right => right < left
  | "-ge" => numbers fun left right => right ≤ left
  | _ => none

/-- This is the result of a condition without connectives; it may be unintelligible. -/
def testSimple (state : State) : List Octets → Option Bool
  | [] => some false
  | ['!'] :: rest => if rest.isEmpty then some true else (testSimple state rest).map Bool.not
  | [operand] => some !operand.isEmpty
  | [operator, operand] => state.testOne operator operand
  | [left, operator, right] => testTwo left operator right
  | _ => none

/-- This function cuts a condition at a connective. -/
def cutAtWord (word : Octets) : List Octets → List (List Octets)
  | [] => [[]]
  | first :: rest =>
      match cutAtWord word rest with
      | [] => [[first]]
      | group :: groups =>
          if first == word then [] :: group :: groups else (first :: group) :: groups

/-- This is the status of the test command: zero when the condition holds, one when it does not,
and two when it cannot be understood. -/
def testStatus (state : State) (arguments : List Octets) : Nat :=
  let parts := if arguments.length ≤ 3 then [[arguments]]
    else (cutAtWord ['-', 'o'] arguments).map (cutAtWord ['-', 'a'])
  let results := parts.map fun alternative => alternative.map state.testSimple
  if results.any fun alternative => alternative.any Option.isNone then 2
  else if results.any fun alternative => alternative.all (· == some true) then 0
  else 1

end SheetLint.Shell.State
