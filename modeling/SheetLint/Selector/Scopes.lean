/-
This file gives every file the scopes that belong to its extension.
-/

import SheetLint.Selector

namespace SheetLint

/-- This is the letter in lower case; only letters of ASCII have another one. -/
def lowerAscii (character : Char) : Char :=
  if 'A' ≤ character ∧ character ≤ 'Z' then Char.ofNat (character.toNat + 32) else character

/-- These are the scopes of an extension in lower case. Pages carry a style sheet inside. -/
def scopesOfExtension (extension : List Char) : List ScopeName :=
  let name := String.ofList extension
  if name = "css" then ["source.css".toList]
  else if name = "scss" then ["source.scss".toList]
  else if name = "sass" then ["source.sass".toList]
  else if name = "less" then ["source.less".toList]
  else if name = "sss" then ["source.sss".toList]
  else if name = "html" ∨ name = "htm" ∨ name = "vue" ∨ name = "svelte" then
    ["text.html.basic".toList, "source.css.embedded.html".toList]
  else []

/-- These are the scopes of the file at a path. -/
def Path.scopes (path : Path) : List ScopeName :=
  scopesOfExtension ((path.extension?.getD []).map lowerAscii)

/-- This test holds when the file at the path is selected by its extension. -/
def Selector.appliesTo (selector : Selector) (path : Path) : Bool :=
  selector.accepts path.scopes

end SheetLint
