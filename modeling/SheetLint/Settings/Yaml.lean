/-
This file reads settings from YAML. A value that does not fit is named by the way to it and by its
place in the text.
-/

import SheetLint.Settings
import SheetLint.Yaml.Value

namespace SheetLint.Settings.FromYaml

open SheetLint.Yaml

/-- This is the way to a part of the document and the place where the part starts. -/
structure Place where
  route : String
  mark : Mark
  deriving DecidableEq, Repr

/-- This is a reason why a part does not fit. Without a place it concerns the whole. -/
structure Fault where
  misfit : Misfit
  place : Option Place
  deriving DecidableEq, Repr

abbrev Decoder (Result : Type) := Document → String → Node → Except Fault Result

def faultAt {Result : Type} (misfit : Misfit) (route : String) (mark : Mark) :
    Except Fault Result :=
  .error ⟨misfit, some ⟨route, mark⟩⟩

/-- This is the reason why a scalar does not fit where something else should stand. -/
def scalarMisfit (tag : Option String) (plain : Bool) (text expected : String) : Misfit :=
  match scalarOf tag plain text with
  | .ok value => .kind value.found expected
  | .error misfit => misfit

/-- This function refuses a node. -/
def refuse {Result : Type} (expected route : String) : Node → Except Fault Result
  | .scalar mark tag plain text => faultAt (scalarMisfit tag plain text expected) route mark
  | .list mark _ _ => faultAt (.kind .sequence expected) route mark
  | .mapping mark _ _ => faultAt (.kind .mapping expected) route mark
  | .alias _ => .error ⟨.kind .sequence expected, .none⟩

/-- Every scalar is a text, as it is written. -/
def decodeScalar (expected : String) : Decoder String
  | document, route, node =>
      match document.follow node with
      | .scalar _ _ _ text => .ok text
      | other => refuse expected route other

def decodeText : Decoder String :=
  decodeScalar "a string"

/-- This function decodes items and numbers them from `index` on. -/
def decodeItems (document : Document) (route : String) :
    Nat → List Node → Except Fault (List String)
  | _, [] => .ok []
  | index, item :: items => do
      let text ← decodeText document (route ++ "[" ++ toString index ++ "]") item
      let texts ← decodeItems document route (index + 1) items
      return text :: texts

/-- An empty scalar counts as an empty list. -/
def decodeTexts : Decoder (List String)
  | document, route, node =>
      match document.follow node with
      | .list _ _ items => decodeItems document route 0 items
      | .scalar _ _ true "" => .ok []
      | other => refuse "a sequence" route other

/-- This is the name of a key in a route. Only a scalar that is written in place has one. -/
def keyName : Node → String
  | .scalar _ _ _ text => text
  | _ => "?"

/-- An empty scalar counts as an empty mapping. The last of several equal names counts. -/
def decodeEnvironment : Decoder Environment
  | document, route, node =>
      match document.follow node with
      | .mapping _ _ entries =>
          entries.foldlM (fun (environment : Environment) entry => do
            let name ← decodeText document route entry.1
            let value ← decodeText document (route ++ "." ++ keyName entry.1) entry.2
            return environment.set name value) []
      | .scalar _ _ true "" => .ok []
      | other => refuse "a map" route other

/-- A policy is a name, or a local tag in front of nothing. -/
def decodePolicy : Decoder StyleBlock.MissingPolicy
  | document, route, node =>
      let tagged (name : String) (rest : Except Fault Unit) :
          Except Fault StyleBlock.MissingPolicy := do
        let policy ← (policyOfName name).mapError fun misfit => (⟨misfit, .none⟩ : Fault)
        rest
        return policy
      match document.follow node with
      | .scalar mark tag plain text =>
          match localTag? tag with
          | some name =>
              tagged name <|
                if plain && isNothing text then .ok ()
                else faultAt (.value (.text text) "null") route mark
          | .none => (policyOfName text).mapError fun misfit => ⟨misfit, some ⟨route, mark⟩⟩
      | .list mark tag _ =>
          match localTag? tag with
          | some name => tagged name (faultAt (.kind .sequence "unit") route mark)
          | .none => faultAt (.kind .sequence "a YAML tag starting with '!'") route mark
      | .mapping mark tag _ =>
          match localTag? tag with
          | some name => tagged name (faultAt (.kind .mapping "unit") route mark)
          | .none => faultAt (.kind .mapping "a YAML tag starting with '!'") route mark
      | other => refuse "a YAML tag starting with '!'" route other

/-- This tells whether a value is left out. What is tagged as null must be null. -/
def isAbsent (document : Document) (node : Node) : Except Fault Bool :=
  match document.follow node with
  | .scalar _ tag true text =>
      match tag with
      | .none => .ok (isNothing text)
      | some name =>
          if name ≠ coreTag "null" then .ok false
          else if isNullWord text then .ok true
          else .error ⟨.value (.text text) "null", .none⟩
  | _ => .ok false

def decodeOptional {Result : Type} (decode : Decoder Result) : Decoder (Option Result)
  | document, route, node => do
      if ← isAbsent document node then return .none
      else return some (← decode document route node)

/-- This function takes over one entry; unknown keys are skipped. The names are the known keys
that came before. -/
def decodeEntry (document : Document) (state : List String × Settings) (entry : Node × Node) :
    Except Fault (List String × Settings) := do
  let (names, settings) := state
  let name ← decodeScalar "field identifier" document "" entry.1
  if names.contains name then throw ⟨.duplicateField name, .none⟩
  let route := keyName entry.1
  let text : Except Fault (Option String) := decodeOptional decodeText document route entry.2
  let take (settings : Settings) : Except Fault (List String × Settings) :=
    .ok (name :: names, settings)
  match name with
  | "executable" => take { settings with executable := ← text }
  | "args" =>
      take { settings with arguments := ← decodeOptional decodeTexts document route entry.2 }
  | "selector" => take { settings with selector := ← text }
  | "output" => take { settings with output := ← text }
  | "workingDir" => take { settings with workingDirectory := ← text }
  | "styleMarker" => take { settings with styleMarker := ← text }
  | "missingStyleBlock" =>
      take { settings with missingBlock := ← decodeOptional decodePolicy document route entry.2 }
  | "env" =>
      take { settings with
        environment := ← decodeOptional decodeEnvironment document route entry.2 }
  | _ => return state

def decodeNode (document : Document) (node : Node) : Except Fault Settings :=
  match document.follow node with
  | .mapping mark _ entries =>
      ((entries.foldlM (decodeEntry document) ([], Settings.none)).map Prod.snd).mapError
        fun fault => { fault with place := fault.place.getD ⟨"", mark⟩ }
  | .scalar _ _ true "" => .ok Settings.none
  | other => refuse "struct BridgeConfig" "" other

/-- This is a reason why a text gives no settings: either it is no document at all, or something
in it does not fit. -/
inductive Defect where
  | notParsed
  | misfit (reason : Misfit) (place : Place)
  deriving DecidableEq, Repr

/-- This is the reason behind the way to it. The place is left out where the text starts. -/
def misfitMessage (reason : Misfit) (place : Place) : String :=
  let way := if place.route.isEmpty then "" else place.route ++ ": "
  let position :=
    if place.mark.line = 0 ∧ place.mark.column = 0 then ""
    else " at line " ++ toString (place.mark.line + 1) ++ " column " ++
      toString (place.mark.column + 1)
  way ++ reason.message ++ position

/-- This function reads settings. A reason is given only when the document as such has a value. -/
def read (text : String) : Except Defect Settings :=
  match document? text.toList with
  | .none => .error .notParsed
  | some document =>
      match document.content with
      | .none => .ok Settings.none
      | some node =>
          match decodeNode document node with
          | .ok settings => .ok settings
          | .error fault =>
              if document.value?.isSome then
                .error (.misfit fault.misfit (fault.place.getD ⟨"", ⟨0, 0, 0⟩⟩))
              else .error .notParsed

end SheetLint.Settings.FromYaml
