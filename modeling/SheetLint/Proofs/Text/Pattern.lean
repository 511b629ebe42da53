/-
This file gives the meaning of search patterns by backtracking: a pattern lists every way to match
the front of a text, and the way that is tried first stands first.
-/

import SheetLint.Text.Ranges

namespace SheetLint.Text

/-- This is a search pattern. A run is as long as possible when it is greedy, and as short as
possible otherwise; a group notes what was matched inside it. -/
inductive Pattern where
  | one (member : Char → Bool)
  | optional (inner : Pattern)
  | run (greedy : Bool) (member : Char → Bool)
  | sequence (first second : Pattern)
  | group (inner : Pattern)

/-- This is one way to match the front of a text. -/
structure Way where
  matched : List Char
  rest : List Char
  group : Option (List Char)

/-- This way matches nothing. -/
def Way.nothing (text : List Char) : Way :=
  ⟨[], text, none⟩

/-- This way takes one more character in front. -/
def Way.prepend (character : Char) (way : Way) : Way :=
  { way with matched := character :: way.matched }

/-- This way goes on with another one; the later group counts. -/
def Way.andThen (first second : Way) : Way :=
  ⟨first.matched ++ second.matched, second.rest, second.group.or first.group⟩

/-- This function lists the runs at the front of a text: the longest one first when the run is
greedy, and the shortest one first otherwise. -/
def runWays (greedy : Bool) (member : Char → Bool) : List Char → List Way
  | [] => [Way.nothing []]
  | character :: rest =>
      if member character then
        let longer := (runWays greedy member rest).map (Way.prepend character)
        if greedy then longer ++ [Way.nothing (character :: rest)]
        else Way.nothing (character :: rest) :: longer
      else [Way.nothing (character :: rest)]

namespace Pattern

/-- This function lists the ways to match the front of a text in the order of preference. -/
def ways : Pattern → List Char → List Way
  | .one member, text =>
      match text with
      | [] => []
      | character :: rest => if member character then [⟨[character], rest, none⟩] else []
  | .optional inner, text => inner.ways text ++ [Way.nothing text]
  | .run greedy member, text => runWays greedy member text
  | .sequence first second, text =>
      (first.ways text).flatMap fun way => (second.ways way.rest).map way.andThen
  | .group inner, text => (inner.ways text).map fun way => { way with group := some way.matched }

/-- This is the way that the matcher settles on. -/
def match? (pattern : Pattern) (text : List Char) : Option Way :=
  (pattern.ways text).head?

/-- This pattern matches the characters one after the other and then goes on. -/
def literal (characters : List Char) (next : Pattern) : Pattern :=
  characters.foldr (fun character pattern => .sequence (.one (· == character)) pattern) next

/-- This is the content of the group in the way that the matcher settles on. -/
def capture? (pattern : Pattern) (text : List Char) : Option (Option (List Char)) :=
  (pattern.match? text).map Way.group

/-- A pattern without groups notes nothing. -/
def Plain (pattern : Pattern) : Prop :=
  ∀ text, ∀ way ∈ pattern.ways text, way.group = none

/-- The first way that the second pattern can go on from decides about a sequence. -/
theorem capture?_sequence {first : Pattern} (plain : first.Plain) (second : Pattern)
    (text : List Char) :
    (sequence first second).capture? text =
      (first.ways text).findSome? fun way => second.capture? way.rest := by
  have noted : ∀ way ∈ first.ways text, way.group = none := plain text
  rw [capture?, match?, ways, List.head?_flatMap]
  generalize first.ways text = known at noted
  induction known with
  | nil => rfl
  | cons way others inductionHypothesis =>
      have unnoted : way.group = none := noted way List.mem_cons_self
      have later := inductionHypothesis fun other member =>
        noted other (List.mem_cons_of_mem _ member)
      rw [List.findSome?_cons, List.findSome?_cons, List.head?_map, capture?, match?]
      cases (second.ways way.rest).head? with
      | none => exact later
      | some next => simp [Way.andThen, unnoted]

theorem plain_one (member : Char → Bool) : (one member).Plain := by
  intro text way found
  cases text with
  | nil => simp [ways] at found
  | cons character rest =>
      simp only [ways] at found
      split at found
      · rw [List.mem_singleton.mp found]
      · simp at found

theorem plain_optional {inner : Pattern} (plain : inner.Plain) : (optional inner).Plain := by
  intro text way found
  rw [ways, List.mem_append] at found
  rcases found with taken | skipped
  · exact plain text way taken
  · rw [List.mem_singleton.mp skipped]
    rfl

theorem plain_run (greedy : Bool) (member : Char → Bool) : (run greedy member).Plain := by
  intro text
  change ∀ way ∈ runWays greedy member text, way.group = none
  induction text with
  | nil => simp [runWays, Way.nothing]
  | cons character rest inductionHypothesis =>
      intro way found
      cases inside : member character <;> cases greedy <;>
        simp only [runWays, inside, Bool.false_eq_true, ↓reduceIte, List.mem_append,
          List.mem_cons, List.mem_map, List.not_mem_nil, or_false] at found
      · rw [found]; rfl
      · rw [found]; rfl
      · rcases found with equal | ⟨longer, member, equal⟩
        · rw [equal]; rfl
        · rw [← equal]; exact inductionHypothesis longer member
      · rcases found with ⟨longer, member, equal⟩ | equal
        · rw [← equal]; exact inductionHypothesis longer member
        · rw [equal]; rfl

/-- A single character has to be there. -/
theorem capture?_one_nil (member : Char → Bool) (next : Pattern) :
    (sequence (one member) next).capture? [] = none :=
  capture?_sequence (plain_one member) next []

theorem capture?_one_cons (member : Char → Bool) (next : Pattern) (character : Char)
    (rest : List Char) :
    (sequence (one member) next).capture? (character :: rest) =
      if member character then next.capture? rest else none := by
  rw [capture?_sequence (plain_one member)]
  cases inside : member character <;> simp [ways, inside, List.findSome?_cons]
  cases next.capture? rest <;> rfl

/-- An optional part is matched if what follows can go on from there, and left out otherwise. -/
theorem capture?_optional {inner : Pattern} (plain : inner.Plain) (next : Pattern)
    (text : List Char) :
    (sequence (optional inner) next).capture? text =
      ((sequence inner next).capture? text).or (next.capture? text) := by
  rw [capture?_sequence (plain_optional plain), capture?_sequence plain, ways,
    List.findSome?_append]
  congr 1
  rw [List.findSome?_cons, Way.nothing]
  cases next.capture? text <;> rfl

/-- Behind the last character a run is empty. -/
theorem capture?_run_nil (greedy : Bool) (member : Char → Bool) (next : Pattern) :
    (sequence (run greedy member) next).capture? [] = next.capture? [] := by
  rw [capture?_sequence (plain_run greedy member), ways, runWays, List.findSome?_cons, Way.nothing]
  cases next.capture? [] <;> rfl

/-- A greedy run takes a character if what follows can go on somewhere behind it. -/
theorem capture?_greedy_cons (member : Char → Bool) (next : Pattern) (character : Char)
    (rest : List Char) :
    (sequence (run true member) next).capture? (character :: rest) =
      if member character then
        ((sequence (run true member) next).capture? rest).or (next.capture? (character :: rest))
      else next.capture? (character :: rest) := by
  rw [capture?_sequence (plain_run true member), capture?_sequence (plain_run true member)]
  have last : List.findSome? (fun way => next.capture? way.rest)
      [Way.nothing (character :: rest)] = next.capture? (character :: rest) := by
    rw [List.findSome?_cons, Way.nothing]
    cases next.capture? (character :: rest) <;> rfl
  cases inside : member character
  · simpa [ways, runWays, inside] using last
  · simp only [ways, runWays, inside, ↓reduceIte, List.findSome?_append, last, List.findSome?_map]
    rfl

/-- A lazy run takes a character only if what follows cannot go on in front of it. -/
theorem capture?_lazy_cons (member : Char → Bool) (next : Pattern) (character : Char)
    (rest : List Char) :
    (sequence (run false member) next).capture? (character :: rest) =
      (next.capture? (character :: rest)).or
        (if member character then (sequence (run false member) next).capture? rest else none) := by
  rw [capture?_sequence (plain_run false member), capture?_sequence (plain_run false member)]
  cases inside : member character <;>
    simp only [ways, runWays, inside, Bool.false_eq_true, ↓reduceIte, List.findSome?_cons,
      List.findSome?_nil, List.findSome?_map, Way.nothing] <;>
    cases next.capture? (character :: rest) <;> rfl

/-- A literal matches where the text starts with it. -/
theorem capture?_literal (characters : List Char) (next : Pattern) (text : List Char) :
    (literal characters next).capture? text =
      if characters.isPrefixOf text then next.capture? (text.drop characters.length) else none := by
  induction characters generalizing text with
  | nil => simp [literal]
  | cons character characters inductionHypothesis =>
      change (sequence (one (· == character)) (literal characters next)).capture? text = _
      cases text with
      | nil => rw [capture?_one_nil]; rfl
      | cons first rest =>
          rw [capture?_one_cons, inductionHypothesis, List.isPrefixOf_cons_cons]
          by_cases same : first = character
          · simp [same]
          · simp [same, Ne.symm same]

/-- A greedy run in a group notes the whole run. -/
theorem capture?_group_run (member : Char → Bool) (text : List Char) :
    (group (run true member)).capture? text = some (some (text.takeWhile member)) := by
  have longest : (runWays true member text).head? =
      some ⟨text.takeWhile member, text.dropWhile member, none⟩ := by
    induction text with
    | nil => rfl
    | cons character rest inductionHypothesis =>
        cases inside : member character with
        | false => simp [runWays, inside, Way.nothing]
        | true => simp [runWays, inside, inductionHypothesis, Way.prepend]
  rw [capture?, match?, ways, ways, List.head?_map, longest]
  rfl

end Pattern

end SheetLint.Text
