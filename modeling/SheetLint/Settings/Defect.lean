/-
This file brings the two formats of settings files together.
-/

import SheetLint.Settings.Toml
import SheetLint.Settings.Yaml

namespace SheetLint.Settings

inductive Format where
  | toml
  | yaml
  deriving DecidableEq, Repr

/-- This is a reason why a settings file cannot be used. -/
inductive Defect where
  /-- The file is no document of its format. -/
  | notParsed (format : Format)
  | toml (cause : FromToml.Cause) (excerpt : FromToml.Excerpt)
  | yaml (misfit : Misfit) (place : FromYaml.Place)
  deriving DecidableEq, Repr

def Format.name : Format → String
  | .toml => "TOML"
  | .yaml => "YAML"

def Defect.message : Defect → String
  | .notParsed format => "not a " ++ format.name ++ " document"
  | .toml cause excerpt => excerpt.message cause.message
  | .yaml misfit place => FromYaml.misfitMessage misfit place

/-- This function reads settings in a format. -/
def Format.read (format : Format) (text : String) : Except Defect Settings :=
  match format with
  | .toml =>
      (FromToml.read text).mapError fun defect =>
        match defect with
        | .notParsed => .notParsed .toml
        | .misfit cause excerpt => .toml cause excerpt
  | .yaml =>
      (FromYaml.read text).mapError fun defect =>
        match defect with
        | .notParsed => .notParsed .yaml
        | .misfit reason place => .yaml reason place

end SheetLint.Settings
