/-
This file reads the command line. An option may stand anywhere behind its command; the values of
an option are looked at when the next argument is known.
-/

import SheetLint.CommandLine.Refusal
import SheetLint.Text.Digits

namespace SheetLint.CommandLine

/-- This is a number of 64 bits without sign. A plus may stand before its digits. -/
def readNumber (text : String) : Except NumberFault Nat :=
  let rec go (number : Nat) : List Char → Except NumberFault Nat
    | [] => .ok number
    | character :: rest =>
        if !Text.isDigit character then .error .noDigit
        else
          let larger := number * 10 + Text.digitValue character
          if larger < Nat.pow 2 64 then go larger rest else .error .tooLarge
  match text.toList with
  | [] => .error .empty
  | ['+'] => .error .noDigit
  | '+' :: digits => go 0 digits
  | digits => go 0 digits

/-- This is what was given to a command so far, in the order in which it was met, and an option or
operands whose values are not looked at yet. -/
structure Gathered where
  command : CommandForm
  given : List (Slot × List String)
  pending : Option (Slot × List String)

namespace Gathered

def start (command : CommandForm) : Gathered :=
  ⟨command, [], none⟩

def slots (gathered : Gathered) : List Slot :=
  gathered.given.map Prod.fst

def has (gathered : Gathered) (slot : Slot) : Bool :=
  gathered.slots.contains slot

def remove (gathered : Gathered) (slot : Slot) : Gathered :=
  { gathered with given := gathered.given.filter fun entry => entry.1 != slot }

def refusal (gathered : Gathered) (cause : Cause) : Refusal :=
  ⟨cause, gathered.command, []⟩

/-- This is a step that may be refused; what was gathered is kept in any case. -/
abbrev Step := Gathered × Option Refusal

/-- This function adds operands to those that were given. -/
def addOperands (gathered : Gathered) (slot : Slot) (values : List String) : Gathered :=
  if gathered.has slot then
    { gathered with given := gathered.given.map fun entry =>
        if entry.1 == slot then (slot, entry.2 ++ values) else entry }
  else { gathered with given := gathered.given ++ [(slot, values)] }

/-- This function takes an option with its values, if it has any. An option must not be given
twice, and an offset must be a number. -/
def addOption (gathered : Gathered) (form : OptionForm) (values : List String) : Step :=
  let slot := Slot.option form
  if form.value.isSome && values.isEmpty then
    (gathered, some (gathered.refusal (.missingValue form)))
  else if gathered.has slot then
    (gathered.remove slot, some (gathered.refusal (.repeated form)))
  else
    let added := { gathered with given := gathered.given ++ [(slot, values)] }
    match form.name, values with
    | .offset, value :: _ =>
        match readNumber value with
        | .ok _ => (added, none)
        | .error fault => (added, some (gathered.refusal (.invalidValue value form fault)))
    | _, _ => (added, none)

/-- This function looks at what was pending. -/
def settle (gathered : Gathered) : Step :=
  let settled := { gathered with pending := none }
  match gathered.pending with
  | none => (gathered, none)
  | some (.operands form, values) => (settled.addOperands (.operands form) values, none)
  | some (.option form, values) => settled.addOption form values

/-- This function goes on after what was pending, unless that is refused. -/
def afterSettling (gathered : Gathered) (next : Gathered → Step) : Step :=
  match gathered.settle with
  | (settled, some refusal) => (settled, some refusal)
  | (settled, none) => next settled

/-- This function refuses something whatever was pending. -/
def refuseWith (gathered : Gathered) (cause : Cause) (showsUsed : Bool) : Step :=
  let settled := gathered.settle.1
  (settled, some ⟨cause, settled.command, if showsUsed then settled.slots else []⟩)

/-- This function takes an option without a value. Help and version are answered at once. -/
def takeFlag (gathered : Gathered) (form : OptionForm) (long : Bool) : Step :=
  gathered.afterSettling fun settled =>
    match form.name with
    | .help => (settled, some (settled.refusal (.help long)))
    | .version => (settled, some (settled.refusal .version))
    | _ => settled.addOption form []

/-- This function takes a long option, given without its dashes and with what stands behind an
equals sign. -/
def takeLong (gathered : Gathered) (name : String) (attached : Option String) (tip : Tip) : Step :=
  match gathered.command.longOption? name with
  | none => gathered.refuseWith (.unknownArgument ("--" ++ name) tip) true
  | some form =>
      match form.value, attached with
      | none, none => gathered.takeFlag form true
      | none, some value =>
          let slot := Slot.option form
          let used := if gathered.has slot then gathered.slots else gathered.slots ++ [slot]
          (gathered.settle.1, some ⟨.needlessValue value form, gathered.command, used⟩)
      | some _, some value => gathered.afterSettling fun settled => settled.addOption form [value]
      | some _, none =>
          gathered.afterSettling fun settled =>
            ({ settled with pending := some (.option form, []) }, none)

/-- This function takes the letters of short options one by one. -/
def takeShort (gathered : Gathered) (tip : Tip) : List Char → Step
  | [] => (gathered, none)
  | letter :: letters =>
      match gathered.command.shortOption? letter with
      | none =>
          gathered.refuseWith (.unknownArgument ("-" ++ String.singleton letter) tip) false
      | some form =>
          match gathered.takeFlag form false with
          | (taken, some refusal) => (taken, some refusal)
          | (taken, none) => takeShort taken tip letters

/-- This function takes an argument that is no option. -/
def takePlain (gathered : Gathered) (argument : String) (trailing : Bool) : Step :=
  match gathered.command.operand with
  | some form =>
      match gathered.pending with
      | some (.operands _, values) =>
          ({ gathered with pending := some (.operands form, values ++ [argument]) }, none)
      | _ =>
          gathered.afterSettling fun settled =>
            ({ settled with pending := some (.operands form, [argument]) }, none)
  | none =>
      let cause :=
        if trailing && (gathered.command.command? argument).isSome then
          Cause.unknownArgument argument .withoutDashes
        else if gathered.command.commands.isEmpty then Cause.unknownArgument argument .none
        else Cause.unknownCommand argument
      gathered.refuseWith cause false

/-- This function cuts a text at its first equals sign. -/
def cutAtEquals (text : List Char) : String × Option String :=
  let (name, value) := Text.splitWhere (· == '=') text
  (String.ofList name, value.map String.ofList)

/-- This test holds while the option that came last waits for its value. -/
def awaitsValue (gathered : Gathered) : Bool :=
  match gathered.pending with
  | some (.option _, []) => true
  | _ => false

/-- This is an argument as far as its dashes tell. -/
inductive Kind where
  | dashes
  | long (name : String) (attached : Option String)
  | short (letters : List Char)
  | plain

def kindOf (argument : String) : Kind :=
  match argument.toList with
  | ['-', '-'] => .dashes
  | '-' :: '-' :: text =>
      let (name, attached) := cutAtEquals text
      .long name attached
  | '-' :: letter :: letters => .short (letter :: letters)
  | _ => .plain

/-- This is the result of reading the arguments of one command: what was given, and the command
inside it with the arguments that are left for that. -/
structure Outcome where
  gathered : Gathered
  inner : Option (String × List String)

/-- This function reads the arguments of a command up to the name of a command inside it. Behind
two dashes nothing is an option. -/
def readArguments (trailing : Bool) (gathered : Gathered) :
    List String → Except Refusal Outcome
  | [] => .ok ⟨gathered, none⟩
  | argument :: arguments =>
      let goOn : Step → Except Refusal Outcome
        | (_, some refusal) => .error refusal
        | (taken, none) => readArguments trailing taken arguments
      if trailing then goOn (gathered.takePlain argument true)
      else if (gathered.command.command? argument).isSome then
        .ok ⟨gathered, some (argument, arguments)⟩
      else
        let tip : Tip := if gathered.command.operand.isSome then .asValue else .none
        match kindOf argument with
        | .dashes => readArguments true gathered arguments
        | .long name attached => goOn (gathered.takeLong name attached tip)
        | .short letters => goOn (gathered.takeShort tip letters)
        | .plain =>
            match gathered.awaitsValue, gathered.pending with
            | true, some (slot, _) =>
                goOn ({ gathered with pending := some (slot, [argument]) }, none)
            | _, _ => goOn (gathered.takePlain argument false)

/-- This function checks that all operands are there when the arguments have ended. -/
def finish (gathered : Gathered) : Except Refusal Gathered :=
  match gathered.settle with
  | (_, some refusal) => .error refusal
  | (settled, none) =>
      match settled.command.operand with
      | none => .ok settled
      | some form =>
          if settled.has (.operands form) then .ok settled
          else .error ⟨.missingOperands form, settled.command,
            settled.slots ++ [.operands form]⟩

/-- These are the values of an option. -/
def valuesOf? (gathered : Gathered) (name : OptionName) : Option (List String) :=
  (gathered.given.find? fun entry =>
    match entry.1 with
    | .option form => form.name == name
    | .operands _ => false).map Prod.snd

def hasOption (gathered : Gathered) (name : OptionName) : Bool :=
  (gathered.valuesOf? name).isSome

def valueOf? (gathered : Gathered) (name : OptionName) : Option String :=
  (gathered.valuesOf? name).bind List.head?

def operands (gathered : Gathered) : List String :=
  (gathered.given.find? fun entry =>
    match entry.1 with
    | .option _ => false
    | .operands _ => true).elim [] Prod.snd

end Gathered

end SheetLint.CommandLine
