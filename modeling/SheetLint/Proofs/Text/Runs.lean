/-
This file says which runs a list falls into at its separators.
-/

import SheetLint.Text.Blank

namespace SheetLint.Text

theorem cut_eq_splitOnP (isSeparator : Char → Bool) (text : List Char) :
    cut isSeparator text = text.splitOnP isSeparator := by
  induction text with
  | nil => rfl
  | cons character rest inductionHypothesis =>
      rw [cut, List.splitOnP_cons_eq_if_modifyHead, inductionHypothesis]
      obtain ⟨piece, pieces, parts⟩ :=
        List.exists_cons_of_ne_nil (List.splitOnP_ne_nil isSeparator rest)
      rw [parts]
      rfl

theorem cut_eq_splitOn (separator : Char) (text : List Char) :
    cut (· == separator) text = text.splitOn separator := by
  rw [cut_eq_splitOnP, List.splitOn_eq_splitOnP]

variable {Item : Type} {separator : Item} {items before run after : List Item}

/-- The run stands in the list between the two parts and holds no separator, and on either side
there is one or the list ends. -/
structure Run (separator : Item) (items before run after : List Item) : Prop where
  whole : items = before ++ run ++ after
  plain : separator ∉ run
  opens : before = [] ∨ ∃ earlier, before = earlier ++ [separator]
  closes : after = [] ∨ ∃ later, after = separator :: later

/-- What stands in front of a separator does not change the runs behind it. -/
theorem Run.behind (found : Run separator items before run after) (front : List Item) :
    Run separator (front ++ separator :: items) (front ++ separator :: before) run after where
  whole := by simp [found.whole]
  plain := found.plain
  opens := by
    rcases found.opens with nothing | ⟨earlier, some⟩
    · exact Or.inr ⟨front, by rw [nothing]⟩
    · exact Or.inr ⟨front ++ separator :: earlier, by simp [some]⟩
  closes := found.closes

theorem exists_run_start (separator : Item) (items : List Item) :
    ∃ run after, Run separator items [] run after := by
  induction items with
  | nil => exact ⟨[], [], rfl, List.not_mem_nil, Or.inl rfl, Or.inl rfl⟩
  | cons item items inductionHypothesis =>
      by_cases same : item = separator
      · exact ⟨[], item :: items, rfl, List.not_mem_nil, Or.inl rfl, Or.inr ⟨items, by rw [same]⟩⟩
      · obtain ⟨run, after, found⟩ := inductionHypothesis
        refine ⟨item :: run, after, by rw [found.whole]; rfl, ?_, Or.inl rfl, found.closes⟩
        simp [Ne.symm same, found.plain]

/-- What stands in joined pieces stands in a piece or between two of them. -/
theorem mem_of_mem_intercalate {between : List Item} {pieces : List (List Item)} {item : Item}
    (member : item ∈ between.intercalate pieces) :
    item ∈ between ∨ ∃ piece ∈ pieces, item ∈ piece := by
  induction pieces with
  | nil => exact absurd member List.not_mem_nil
  | cons piece pieces inductionHypothesis =>
      by_cases last : pieces = []
      · rw [last, List.intercalate_singleton] at member
        exact Or.inr ⟨piece, List.mem_cons_self, member⟩
      · rw [List.intercalate_cons_of_ne_nil last, List.mem_append, List.mem_append] at member
        rcases member with (here | gap) | later
        · exact Or.inr ⟨piece, List.mem_cons_self, here⟩
        · exact Or.inl gap
        · exact (inductionHypothesis later).imp_right fun ⟨other, found, inside⟩ =>
            ⟨other, List.mem_cons_of_mem _ found, inside⟩

theorem mem_iff_head_or_tail {member : Item} :
    member ∈ items ↔ items.head? = some member ∨ member ∈ items.tail := by
  cases items <;> simp [eq_comm]

variable [BEq Item] [LawfulBEq Item]

/-- The first run is the first part of the list when it is split at the separators. -/
theorem Run.splitOn_eq (found : Run separator items [] run after) :
    after = [] ∧ items.splitOn separator = [run] ∨
      ∃ later, after = separator :: later ∧
        items.splitOn separator = run :: later.splitOn separator := by
  rcases found.closes with nothing | ⟨later, some⟩
  · have whole : items = run := by simpa [nothing] using found.whole
    exact Or.inl ⟨nothing, by rw [whole, List.splitOn_eq_singleton found.plain]⟩
  · refine Or.inr ⟨later, some, ?_⟩
    rw [found.whole, some]
    exact List.splitOn_append_cons_self_of_not_mem found.plain later

theorem Run.head?_splitOn (found : Run separator items [] run after) :
    (items.splitOn separator).head? = some run := by
  rcases found.splitOn_eq with ⟨-, parts⟩ | ⟨later, -, parts⟩ <;> rw [parts] <;> rfl

/-- A list that is empty or begins with a separator has nothing in its first part, and its other
parts are added to those of a list in front of it. -/
theorem splitOn_of_head (head : ∀ first, items.head? = some first → first = separator) :
    ∃ parts, items.splitOn separator = [] :: parts ∧
      ∀ front : List Item, (front ++ items).splitOn separator =
        front.splitOn separator ++ parts := by
  cases items with
  | nil => exact ⟨[], List.splitOn_nil separator, fun front => by simp⟩
  | cons first rest =>
      obtain rfl := head first rfl
      exact ⟨rest.splitOn first, List.splitOn_append_cons_self [] rest,
        fun front => List.splitOn_append_cons_self front rest⟩

variable (separator items run)

theorem run_start_iff :
    (∃ after, Run separator items [] run after) ↔
      (items.splitOn separator).head? = some run := by
  constructor
  · rintro ⟨after, found⟩
    exact found.head?_splitOn
  · intro first
    obtain ⟨start, after, found⟩ := exists_run_start separator items
    rw [found.head?_splitOn, Option.some.injEq] at first
    exact ⟨after, first ▸ found⟩

/-- The runs behind separators are the other parts. -/
theorem run_behind_iff :
    (∃ before after, Run separator items (before ++ [separator]) run after) ↔
      run ∈ (items.splitOn separator).tail := by
  constructor
  · rintro ⟨before, after, found⟩
    have start : Run separator (run ++ after) [] run after :=
      ⟨rfl, found.plain, Or.inl rfl, found.closes⟩
    have whole : items = before ++ separator :: (run ++ after) := by simp [found.whole]
    rw [whole, List.splitOn_append_cons_self,
      List.tail_append_of_ne_nil (List.splitOn_ne_nil _ _)]
    exact List.mem_append_right _ (List.mem_of_head? start.head?_splitOn)
  · -- by induction on the length: behind the first run and its separator stands a shorter list
    induction size : items.length using Nat.strongRecOn generalizing items with
    | _ bound inductionHypothesis =>
        intro member
        obtain ⟨start, after, found⟩ := exists_run_start separator items
        rcases found.splitOn_eq with ⟨-, parts⟩ | ⟨later, some, parts⟩
        · simp [parts] at member
        · have whole : items = start ++ separator :: later := by simp [found.whole, some]
          have shorter : later.length < bound := by
            rw [← size, whole, List.length_append, List.length_cons]
            omega
          rw [parts, List.tail_cons] at member
          rcases mem_iff_head_or_tail.mp member with next | other
          · obtain ⟨rest, here⟩ := (run_start_iff separator later run).mpr next
            exact ⟨start, rest, whole ▸ here.behind start⟩
          · obtain ⟨before, rest, there⟩ := inductionHypothesis _ shorter later rfl other
            refine ⟨start ++ separator :: before, rest, ?_⟩
            rw [whole, List.append_assoc, List.cons_append]
            exact there.behind start

/-- The runs of a list are the parts that it is split into. -/
theorem run_iff :
    (∃ before after, Run separator items before run after) ↔ run ∈ items.splitOn separator := by
  rw [mem_iff_head_or_tail, ← run_start_iff, ← run_behind_iff]
  constructor
  · rintro ⟨before, after, found⟩
    rcases found.opens with nothing | ⟨earlier, some⟩
    · exact Or.inl ⟨after, nothing ▸ found⟩
    · exact Or.inr ⟨earlier, after, some ▸ found⟩
  · rintro (⟨after, found⟩ | ⟨before, after, found⟩)
    · exact ⟨[], after, found⟩
    · exact ⟨_, after, found⟩

variable {separator items run}

theorem not_mem_of_mem_splitOn (member : run ∈ items.splitOn separator) : separator ∉ run := by
  obtain ⟨before, after, found⟩ := (run_iff separator items run).mpr member
  exact found.plain

theorem mem_of_mem_splitOn (member : run ∈ items.splitOn separator) {item : Item}
    (inside : item ∈ run) : item ∈ items := by
  obtain ⟨before, after, found⟩ := (run_iff separator items run).mpr member
  rw [found.whole]
  exact List.mem_append_left _ (List.mem_append_right _ inside)

end SheetLint.Text
