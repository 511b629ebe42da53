/-
This file shows that colours add nothing to what is printed for people: without the sequences that
style a text, the coloured form is the plain one.
-/

import Mathlib.Data.List.Forall2
import SheetLint.Rendering
import SheetLint.Text.Digits

namespace SheetLint

namespace Terminal

def isParameter (character : Char) : Bool :=
  Text.isDigit character || character == ';'

/-- This is the number of characters of the style sequence at the front of a text: an escape, a
bracket, parameters and the letter m. It is zero if there is no such sequence. -/
def styleLength : List Char → Nat
  | '\x1b' :: '[' :: rest =>
      let parameters := rest.takeWhile isParameter
      if (rest.drop parameters.length).head? = some 'm' then parameters.length + 3 else 0
  | _ => 0

/-- This function leaves out the style sequences, from the left. The number counts the characters of
the last one that are still to be skipped. -/
def unstyledFrom : Nat → List Char → List Char
  | _, [] => []
  | skipped + 1, _ :: rest => unstyledFrom skipped rest
  | 0, character :: rest =>
      match styleLength (character :: rest) with
      | 0 => character :: unstyledFrom 0 rest
      | length + 1 => unstyledFrom length rest

/-- This is the text without its style sequences. -/
def unstyled (text : List Char) : List Char :=
  unstyledFrom 0 text

/-- No style sequence can begin in the text. -/
def EscapeFree (text : String) : Prop :=
  '\x1b' ∉ text.toList

instance (text : String) : Decidable (EscapeFree text) :=
  inferInstanceAs (Decidable (_ ∉ _))

theorem unstyledFrom_append (skipped : List Char) (rest : List Char) :
    unstyledFrom skipped.length (skipped ++ rest) = unstyled rest := by
  induction skipped with
  | nil => rfl
  | cons character skipped inductionHypothesis => exact inductionHypothesis

theorem styleLength_of_plain {character : Char} (plain : character ≠ '\x1b') (rest : List Char) :
    styleLength (character :: rest) = 0 := by
  rw [styleLength]
  intro behind same
  exact plain (List.cons.inj same).1

theorem unstyled_append_of_plain {front : List Char} (plain : '\x1b' ∉ front) (rest : List Char) :
    unstyled (front ++ rest) = front ++ unstyled rest := by
  induction front with
  | nil => rfl
  | cons character front inductionHypothesis =>
      rw [List.mem_cons, not_or] at plain
      have length := styleLength_of_plain (Ne.symm plain.1) (front ++ rest)
      rw [List.cons_append, unstyled, unstyledFrom, length]
      exact congrArg (character :: ·) (inductionHypothesis plain.2)

theorem styleLength_escape {parameters : List Char}
    (numeric : ∀ character ∈ parameters, isParameter character = true) (rest : List Char) :
    styleLength ('\x1b' :: '[' :: (parameters ++ 'm' :: rest)) = parameters.length + 3 := by
  have taken : (parameters ++ 'm' :: rest).takeWhile isParameter = parameters := by
    rw [List.takeWhile_append_of_pos numeric]
    simp [isParameter, Text.isDigit]
  rw [styleLength]
  simp [taken]

theorem unstyled_escape {parameters : List Char}
    (numeric : ∀ character ∈ parameters, isParameter character = true) (rest : List Char) :
    unstyled ('\x1b' :: '[' :: (parameters ++ 'm' :: rest)) = unstyled rest := by
  have skipped := unstyledFrom_append ('[' :: (parameters ++ ['m'])) rest
  rw [unstyled, unstyledFrom, styleLength_escape numeric]
  simpa using skipped

/-- Without its style sequences the first text is the second one, whatever follows. -/
def Shows (styled plain : String) : Prop :=
  ∀ rest, unstyled (styled.toList ++ rest) = plain.toList ++ unstyled rest

theorem EscapeFree.append {text other : String} (first : EscapeFree text)
    (second : EscapeFree other) : EscapeFree (text ++ other) := by
  rw [EscapeFree, String.toList_append, List.mem_append, not_or]
  exact ⟨first, second⟩

theorem EscapeFree.shows {text : String} (plain : EscapeFree text) : Shows text text :=
  unstyled_append_of_plain plain

theorem Shows.append {styled plain further other : String} (first : Shows styled plain)
    (second : Shows further other) : Shows (styled ++ further) (plain ++ other) := by
  intro rest
  rw [String.toList_append, String.toList_append, List.append_assoc, first, second,
    List.append_assoc]

theorem shows_escape {code : String} (numeric : code.toList.all isParameter = true) :
    Shows (escape code) "" := by
  intro rest
  have opened : "\x1b[".toList = ['\x1b', '['] := rfl
  have text : (escape code).toList ++ rest = '\x1b' :: '[' :: (code.toList ++ 'm' :: rest) := by
    simp [escape, opened]
  rw [text]
  exact unstyled_escape (List.all_eq_true.mp numeric) rest

theorem Shows.paint {styled plain : String} (shows : Shows styled plain) (colour : Colour) :
    Shows (paint colour styled) plain := by
  have begins : Shows (escape colour.code) "" := shows_escape (by cases colour <;> decide)
  have ends : Shows (escape "39") "" := shows_escape (by decide)
  have whole := (begins.append shows).append ends
  rwa [String.empty_append, String.append_empty] at whole

theorem Shows.bold {styled plain : String} (shows : Shows styled plain) :
    Shows (bold styled) plain := by
  have begins : Shows (escape "1") "" := shows_escape (by decide)
  have ends : Shows (escape "0") "" := shows_escape (by decide)
  have whole := (begins.append shows).append ends
  rwa [String.empty_append, String.append_empty] at whole

theorem EscapeFree.shows_label {text : String} (plain : EscapeFree text) (colour : Colour) :
    Shows (label true colour text) (label false colour text) :=
  (plain.shows.paint colour).bold

/-- Lines that are shown as others make up a text that is shown as that of the others. -/
theorem shows_join {lines others : List String} (each : List.Forall₂ Shows lines others) :
    Shows (String.join (lines.map (· ++ "\n"))) (String.join (others.map (· ++ "\n"))) := by
  induction each with
  | nil => exact EscapeFree.shows (by decide)
  | cons first _ inductionHypothesis =>
      have feed : Shows "\n" "\n" := EscapeFree.shows (by decide)
      rw [List.map_cons, List.map_cons, String.join_cons, String.join_cons]
      exact (first.append feed).append inductionHypothesis

end Terminal

/-- None of the texts that are printed for people can begin a style sequence. -/
structure FileReport.EscapeFree (report : FileReport) : Prop where
  file : Terminal.EscapeFree report.file
  diagnostics : ∀ diagnostic ∈ report.diagnostics,
    Terminal.EscapeFree diagnostic.rule ∧ Terminal.EscapeFree diagnostic.message
  failures : ∀ failure ∈ report.failures, Terminal.EscapeFree failure
  error : ∀ error ∈ report.error, Terminal.EscapeFree error

namespace Rendering

open Terminal

theorem escapeFree_toString (number : Nat) : EscapeFree (toString number) := by
  intro escape
  have digits : (toString number).toList = Nat.toDigits 10 number := String.toList_ofList
  rw [digits] at escape
  exact absurd (Nat.isDigit_of_mem_toDigits (by decide) (by decide) escape) (by decide)

theorem shows_diagnosticLine {file : String} {diagnostic : Diagnostic}
    (named : EscapeFree file) (rule : EscapeFree diagnostic.rule)
    (message : EscapeFree diagnostic.message) :
    Shows (diagnosticLine true file diagnostic) (diagnosticLine false file diagnostic) := by
  let colour := if diagnostic.isError then Colour.red else Colour.yellow
  have icon : EscapeFree (if diagnostic.isError then "✖" else "▲") := by
    cases diagnostic.isError <;> decide
  have severity : EscapeFree (if diagnostic.isError then "⟦error⟧" else "⟦warn⟧") := by
    cases diagnostic.isError <;> decide
  have place : EscapeFree (file ++ ":" ++ toString (diagnostic.line + 1) ++ ":" ++
      toString (diagnostic.column + 1)) :=
    (((named.append (by decide)).append (escapeFree_toString _)).append (by decide)).append
      (escapeFree_toString _)
  have blank : Shows " " " " := EscapeFree.shows (by decide)
  have opens : Shows " ❲" " ❲" := EscapeFree.shows (by decide)
  have closes : Shows "❳ — " "❳ — " := EscapeFree.shows (by decide)
  have head := ((icon.shows.paint colour).append blank).append (severity.shows_label colour)
  have found := (head.append blank).append place.shows.bold
  exact (((found.append opens).append rule.shows).append closes).append message.shows

theorem shows_noteLine {label plain file text : String} (labels : Shows label plain)
    (named : EscapeFree file) (free : EscapeFree text) :
    Shows (label ++ " " ++ file ++ " — " ++ text) (plain ++ " " ++ file ++ " — " ++ text) := by
  have blank : Shows " " " " := EscapeFree.shows (by decide)
  have dash : Shows " — " " — " := EscapeFree.shows (by decide)
  exact (((labels.append blank).append named.shows).append dash).append free.shows

theorem forall₂_shows_map {Item : Type} {items : List Item} {styled plain : Item → String}
    (each : ∀ item ∈ items, Shows (styled item) (plain item)) :
    List.Forall₂ Shows (items.map styled) (items.map plain) := by
  rw [List.forall₂_map_left_iff, List.forall₂_map_right_iff, List.forall₂_same]
  exact each

/-- The coloured lines for a file are shown as the plain ones, one by one. -/
theorem shows_fileLines {report : FileReport} (free : report.EscapeFree) :
    List.Forall₂ Shows (fileLines true false report) (fileLines false true report) := by
  apply List.rel_append
  · apply List.rel_append
    · apply forall₂_shows_map
      intro diagnostic member
      obtain ⟨rule, message⟩ := free.diagnostics diagnostic member
      exact shows_diagnosticLine free.file rule message
    · apply forall₂_shows_map
      intro note member
      have label : Shows (noteLabel false) (noteLabel true) := EscapeFree.shows_label (by decide) _
      exact shows_noteLine label free.file (free.failures note member)
  · apply forall₂_shows_map
    intro error member
    have label : Shows (errorLabel false) (errorLabel true) := EscapeFree.shows_label (by decide) _
    exact shows_noteLine label free.file (free.error error (by simpa using member))

theorem shows_summaryLine (summary : Summary) :
    Shows (summaryLine true summary) (summaryLine false summary) := by
  have counted {text name : String} (free : EscapeFree text) (named : EscapeFree name)
      (number : Nat) : EscapeFree (text ++ name ++ toString number) :=
    (free.append named).append (escapeFree_toString number)
  have errors : EscapeFree ("— Summary — errors=" ++ toString summary.errors) :=
    EscapeFree.append (by decide) (escapeFree_toString summary.errors)
  have warnings := counted errors (show EscapeFree " warnings=" by decide) summary.warnings
  have failures := counted warnings (show EscapeFree " failures=" by decide) summary.failures
  have files := counted failures (show EscapeFree " files=" by decide) summary.files
  exact files.shows.bold

end Rendering

namespace LintResult

open Terminal Rendering

theorem shows_filesLines {reports : List FileReport}
    (free : ∀ report ∈ reports, report.EscapeFree) :
    List.Forall₂ Shows (reports.flatMap (fileLines true false))
      (reports.flatMap (fileLines false true)) := by
  induction reports with
  | nil => exact .nil
  | cons report reports inductionHypothesis =>
      rw [List.forall_mem_cons] at free
      exact List.rel_append (shows_fileLines free.1) (inductionHypothesis free.2)

theorem shows_humanText {result : LintResult}
    (free : ∀ report ∈ result.files, report.EscapeFree) :
    Shows (humanText false result) (humanText true result) := by
  apply shows_join
  apply List.rel_append
  · exact shows_filesLines free
  · exact .cons (shows_summaryLine result.summary) .nil

/-- What is printed in colours is, without the style sequences, what is printed when the environment
turns colours off. The line of the counts is so whatever was counted. -/
theorem unstyled_render (result : LintResult) (name : String) (people : name ≠ "json")
    (free : ∀ report ∈ result.files, report.EscapeFree) :
    unstyled (result.render (Mode.ofName name) false).toList =
        (result.render (Mode.ofName name) true).toList ∧
      ∀ summary,
        unstyled (summaryLine true summary).toList = (summaryLine false summary).toList := by
  have whole {styled plain : String} (shows : Shows styled plain) :
      unstyled styled.toList = plain.toList := by
    have alone := shows []
    rwa [List.append_nil, show unstyled [] = [] from rfl, List.append_nil] at alone
  rw [Mode.ofName, if_neg people]
  exact ⟨whole (shows_humanText free), fun summary => whole (shows_summaryLine summary)⟩

/-- A bracket that is part of a message stays, and so do the numbers behind it. -/
theorem unstyled_render_of_bracket :
    let report : FileReport := ⟨"a", [⟨2, 0, "error", "r", "[31m"⟩], [], none⟩
    let result : LintResult := ⟨[report]⟩
    report.EscapeFree ∧
      unstyled (result.render (Mode.ofName "pretty") false).toList =
        ("✖ ⟦error⟧ a:3:1 ❲r❳ — [31m\n" ++
          "— Summary — errors=1 warnings=0 failures=0 files=1\n").toList := by
  intro report result
  have free : report.EscapeFree := ⟨by decide, by decide, by decide, by decide⟩
  have each : ∀ report ∈ result.files, report.EscapeFree := by
    rw [List.forall_mem_singleton]
    exact free
  refine ⟨free, ?_⟩
  rw [(unstyled_render result "pretty" (by decide) each).1]
  decide +kernel

end LintResult

end SheetLint
