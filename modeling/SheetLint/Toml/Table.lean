/-
This file puts headers and pairs into the tables of a document. Nothing can be defined twice.
-/

import SheetLint.Toml.Value

namespace SheetLint.Toml

/-- This is the change of a table, unless it is not allowed. -/
abbrev Change := Origin → Entries → Option (Origin × Entries)

def lookup (name : String) (entries : Entries) : Option (Span × Value) :=
  (entries.find? fun entry => entry.1.name == name).map Prod.snd

/-- This function replaces the value of a key that is there and keeps its span. -/
def replace (name : String) (value : Value) (entries : Entries) : Entries :=
  entries.map fun entry =>
    if entry.1.name == name then (entry.1, entry.2.1, value) else entry

/-- This function replaces the last of some tables. -/
def replaceLast (items : List (Span × Value)) (value : Value) : List (Span × Value) :=
  match items.getLast? with
  | none => []
  | some last => items.dropLast ++ [(last.1, value)]

/-- This function follows a path of keys and changes the table at its end. Missing tables are
made. A path of a dotted key must not enter a table that has a header of its own; no path enters
a table in braces. Of tables in double brackets the last one is meant. -/
def descend (dotted : Bool) (change : Change) : List Key → Change
  | [], origin, entries => change origin entries
  | key :: path, origin, entries => do
      let updated ← match lookup key.name entries with
        | none => do
            let origin := if dotted then .dotted else .implied
            let (made, inner) ← descend dotted change path origin []
            some (entries ++ [(key, key.span, .table made inner)])
        | some (_, .table kind inner) =>
            if kind == .inline || (dotted && kind == .header) then none
            else do
              let (made, inner) ← descend dotted change path kind inner
              some (replace key.name (.table made inner) entries)
        | some (_, .tables items) =>
            match items.getLast? with
            | some (_, .table kind inner) => do
                let (made, inner) ← descend dotted change path kind inner
                some (replace key.name (.tables (replaceLast items (.table made inner))) entries)
            | _ => none
        | some _ => none
      some (origin, updated)

/-- This function adds a value under a dotted key to the table of an origin. The table that takes
the value is the table itself or one made by dotted keys. -/
def insertPair (path : List Key) (span : Span) (value : Value) (origin : Origin)
    (entries : Entries) : Option Entries :=
  match path.getLast? with
  | none => none
  | some key =>
      let upper := path.dropLast
      let add : Change := fun kind entries =>
        if !upper.isEmpty && kind != .dotted then none
        else if (lookup key.name entries).isSome then none
        else some (kind, entries ++ [(key, span, value)])
      (descend true add upper origin entries).map Prod.snd

/-- This function begins the table of a header. It may have been implied before. -/
def insertHeader (path : List Key) (span : Span) (entries : Entries) : Option Entries :=
  match path.getLast? with
  | none => none
  | some key =>
      let begin : Change := fun kind entries =>
        match lookup key.name entries with
        | none => some (kind, entries ++ [(key, span, .table .header [])])
        | some (_, .table .implied inner) =>
            some (kind, (entries.filter fun entry => entry.1.name != key.name) ++
              [(key, span, .table .header inner)])
        | some _ => none
      (descend false begin path.dropLast .header entries).map Prod.snd

/-- This function begins one more table under a header in double brackets. -/
def insertArrayHeader (path : List Key) (span : Span) (entries : Entries) : Option Entries :=
  match path.getLast? with
  | none => none
  | some key =>
      let begin : Change := fun kind entries =>
        match lookup key.name entries with
        | none => some (kind, entries ++ [(key, span, .tables [(span, .table .header [])])])
        | some (_, .tables items) =>
            some (kind, replace key.name (.tables (items ++ [(span, .table .header [])])) entries)
        | some _ => none
      (descend false begin path.dropLast .header entries).map Prod.snd

end SheetLint.Toml
