/-
This file computes the arithmetic of shell words. Numbers have 64 bits and a sign.
-/

import SheetLint.Shell.State
import SheetLint.Text.Digits

namespace SheetLint.Shell

/-- This is an operator between two numbers. -/
inductive Operator where
  | add | subtract | multiply | divide | remainder
  | shiftLeft | shiftRight
  | less | lessOrEqual | greater | greaterOrEqual | equal | unequal
  | bitAnd | bitExclusive | bitOr
  | both | either
  deriving DecidableEq, Repr

namespace Operator

/-- These are the operators with their texts; one that starts with another stands before it. -/
def all : List (Octets × Operator) :=
  [("<<", shiftLeft), (">>", shiftRight), ("<=", lessOrEqual), (">=", greaterOrEqual),
    ("==", equal), ("!=", unequal), ("&&", both), ("||", either), ("<", less), (">", greater),
    ("+", add), ("-", subtract), ("*", multiply), ("/", divide), ("%", remainder), ("&", bitAnd),
    ("^", bitExclusive), ("|", bitOr)].map fun entry => (entry.1.toList, entry.2)

/-- Operators of a higher rank bind closer. -/
def rank : Operator → Nat
  | either => 1
  | both => 2
  | bitOr => 3
  | bitExclusive => 4
  | bitAnd => 5
  | equal | unequal => 6
  | less | lessOrEqual | greater | greaterOrEqual => 7
  | shiftLeft | shiftRight => 8
  | add | subtract => 9
  | multiply | divide | remainder => 10

/-- These operators may stand before the equals sign of an assignment. -/
def assigns (operator : Operator) : Bool :=
  (3 ≤ operator.rank && operator.rank ≤ 5) || 8 ≤ operator.rank

def truth (holds : Bool) : Int :=
  if holds then 1 else 0

/-- This function brings a number into the range of 64 bits with a sign. -/
def wrap (value : Int) : Int :=
  Int.bmod value (Nat.pow 2 64)

def onBits (combine : BitVec 64 → BitVec 64 → BitVec 64) (left right : Int) : Int :=
  (combine (BitVec.ofInt 64 left) (BitVec.ofInt 64 right)).toInt

/-- This is the result of an operator; nothing can be divided by zero. -/
def result? (operator : Operator) (left right : Int) : Option Int :=
  let amount := (right % 64).toNat
  match operator with
  | add => some (wrap (left + right))
  | subtract => some (wrap (left - right))
  | multiply => some (wrap (left * right))
  | divide => if right = 0 then none else some (wrap (Int.tdiv left right))
  | remainder => if right = 0 then none else some (Int.tmod left right)
  | shiftLeft => some (wrap (left * Nat.pow 2 amount))
  | shiftRight => some (Int.fdiv left (Nat.pow 2 amount))
  | less => some (truth (left < right))
  | lessOrEqual => some (truth (left ≤ right))
  | greater => some (truth (right < left))
  | greaterOrEqual => some (truth (right ≤ left))
  | equal => some (truth (left == right))
  | unequal => some (truth (left != right))
  | bitAnd => some (onBits (· &&& ·) left right)
  | bitExclusive => some (onBits (· ^^^ ·) left right)
  | bitOr => some (onBits (· ||| ·) left right)
  | both => some (truth (left != 0 && right != 0))
  | either => some (truth (left != 0 || right != 0))

end Operator

/-- This is what stands between the brackets of an arithmetic word. -/
inductive Calculation where
  | number (value : Int)
  | named (name : Octets)
  | negative (operand : Calculation)
  | complement (operand : Calculation)
  | opposite (operand : Calculation)
  | combined (operator : Operator) (left right : Calculation)
  | choice (condition yes no : Calculation)
  | assigned (name : Octets) (operator : Option Operator) (value : Calculation)

namespace Calculation

def skipBlanks (text : Octets) : Octets :=
  text.dropWhile fun character => " \t\n".toList.contains character

def isNameStart (character : Char) : Bool :=
  character.isAlpha || character == '_'

/-- This function takes a name or the digits of a number off. -/
def takeName (text : Octets) : Octets × Octets :=
  let name := text.takeWhile fun character => isNameStart character || Text.isDigit character
  (name, text.drop name.length)

/-- This is the number that digits stand for, with a sign of the base in front of them. -/
def numberOf? (text : Octets) : Option Int :=
  let digitsIn (base : Nat) (passes : Char → Bool) (digits : Octets) : Option Int :=
    if !digits.isEmpty && digits.all passes then some (Text.ofDigits base digits) else none
  match text with
  | '0' :: 'x' :: digits => digitsIn 16 Text.isHexDigit digits
  | '0' :: 'X' :: digits => digitsIn 16 Text.isHexDigit digits
  | '0' :: digits => digitsIn 8 Text.isOctalDigit ('0' :: digits)
  | digits => digitsIn 10 Text.isDigit digits

/-- This function takes an operator off. -/
def takeOperator? (text : Octets) : Option (Operator × Octets) :=
  (Operator.all.find? fun entry => entry.1.isPrefixOf text).map fun entry =>
    (entry.2, text.drop entry.1.length)

/-- This function takes the sign of an assignment off, with the operator in front of it. -/
def takeAssignment? (text : Octets) : Option (Option Operator × Octets) :=
  match text with
  | '=' :: '=' :: _ => none
  | '=' :: rest => some (none, rest)
  | _ =>
      match takeOperator? text with
      | some (operator, '=' :: rest) =>
          if operator.assigns then some (some operator, rest) else none
      | _ => none

mutual

/-- This function reads a choice, which binds least of all. -/
def takeChoice : Nat → Octets → Option (Calculation × Octets)
  | 0, _ => none
  | fuel + 1, text =>
      match takeOperand fuel text with
      | none => none
      | some (first, rest) =>
          match takeOthers fuel 1 first rest with
          | none => none
          | some (condition, rest) =>
              match skipBlanks rest with
              | '?' :: rest =>
                  match takeChoice fuel rest with
                  | none => none
                  | some (yes, rest) =>
                      match skipBlanks rest with
                      | ':' :: rest =>
                          (takeChoice fuel rest).map fun no => (.choice condition yes no.1, no.2)
                      | _ => none
              | rest => some (condition, rest)

/-- This function reads on behind an operand while operators of at least a rank follow. -/
def takeOthers : Nat → Nat → Calculation → Octets → Option (Calculation × Octets)
  | 0, _, _, _ => none
  | fuel + 1, least, left, text =>
      match takeOperator? (skipBlanks text) with
      | none => some (left, text)
      | some (operator, rest) =>
          if operator.rank < least then some (left, text)
          else
            match takeOperand fuel rest with
            | none => none
            | some (next, rest) =>
                match takeOthers fuel (operator.rank + 1) next rest with
                | none => none
                | some (right, rest) => takeOthers fuel least (.combined operator left right) rest

/-- This function reads a number, a name, an assignment, or something in brackets. -/
def takeOperand : Nat → Octets → Option (Calculation × Octets)
  | 0, _ => none
  | fuel + 1, text =>
      match skipBlanks text with
      | '(' :: rest =>
          match takeChoice fuel rest with
          | none => none
          | some (inside, rest) =>
              match skipBlanks rest with
              | ')' :: rest => some (inside, rest)
              | _ => none
      | '+' :: rest => takeOperand fuel rest
      | '-' :: rest => (takeOperand fuel rest).map fun taken => (.negative taken.1, taken.2)
      | '~' :: rest => (takeOperand fuel rest).map fun taken => (.complement taken.1, taken.2)
      | '!' :: rest => (takeOperand fuel rest).map fun taken => (.opposite taken.1, taken.2)
      | rest =>
          let (name, rest) := takeName rest
          if (name.head?.map isNameStart).getD false then
            match takeAssignment? (skipBlanks rest) with
            | none => some (.named name, rest)
            | some (operator, rest) =>
                (takeChoice fuel rest).map fun value => (.assigned name operator value.1, value.2)
          else (numberOf? name).map fun value => (.number value, rest)

end

/-- This is the calculation that a text stands for, if it is well formed. -/
def parse? (text : Octets) : Option Calculation :=
  if (skipBlanks text).isEmpty then some (.number 0)
  else
    match takeChoice (4 * text.length + 4) text with
    | some (calculation, rest) => if (skipBlanks rest).isEmpty then some calculation else none
    | none => none

/-- This is the number in a variable; one without a value counts as zero. -/
def valueOf? (state : State) (name : Octets) : Option Int :=
  match skipBlanks ((state.bindings.lookup name).getD []) with
  | [] => some 0
  | '-' :: digits => (numberOf? digits).map Int.neg
  | '+' :: digits => numberOf? digits
  | digits => numberOf? digits

def textOf (value : Int) : Octets :=
  (if value < 0 then ['-'] else []) ++ Nat.toDigits 10 value.natAbs

/-- This is the result of a calculation and the state with the variables that it changed. The
second operand of a connective is left out where the first one decides. -/
def evaluate? : Calculation → State → Option (Int × State)
  | .number value, state => some (value, state)
  | .named name, state => (valueOf? state name).map fun value => (value, state)
  | .negative operand, state =>
      (evaluate? operand state).map fun found => (Operator.wrap (-found.1), found.2)
  | .complement operand, state =>
      (evaluate? operand state).map fun found => (-found.1 - 1, found.2)
  | .opposite operand, state =>
      (evaluate? operand state).map fun found => (Operator.truth (found.1 == 0), found.2)
  | .combined operator left right, state =>
      match evaluate? left state with
      | none => none
      | some (first, state) =>
          if operator == .both && first == 0 then some (0, state)
          else if operator == .either && first != 0 then some (1, state)
          else
            match evaluate? right state with
            | none => none
            | some (second, state) =>
                (operator.result? first second).map fun value => (value, state)
  | .choice condition yes no, state =>
      match evaluate? condition state with
      | none => none
      | some (found, state) => if found != 0 then evaluate? yes state else evaluate? no state
  | .assigned name operator value, state =>
      match evaluate? value state with
      | none => none
      | some (second, state) =>
          let outcome? := match operator with
            | none => some second
            | some operator =>
                (valueOf? state name).bind fun first => operator.result? first second
          outcome?.map fun result => (result, state.setVariable name (textOf result))

end Calculation

end SheetLint.Shell
