/-
This file shows that outputs drawn side by side do not disturb each other: what one of them gives
is read off its own list of diagnostics.
-/

import Mathlib.Data.List.Basic
import SheetLint.Diagnosis.Session

namespace SheetLint.Diagnosis

/-- This is what can be asked of one output. -/
inductive Draw where
  | next
  | drain
  deriving DecidableEq

/-- These are all diagnostics of an output with the lines that are logged for each. -/
def drawings (offset : Nat) (output : String) : List (Diagnostic × List String) :=
  (diagnose offset output).pending.warnings.map (Warning.diagnose offset)

/-- This function answers for one output alone, from the list of what is left of it. -/
def replay : List (Diagnostic × List String) → List Draw → List Answer
  | _, [] => []
  | left, .next :: draws =>
      .drawn (left.head?.map Prod.fst) left.tail.length ((left.head?.map Prod.snd).getD []) ::
        replay left.tail draws
  | left, .drain :: draws =>
      .drained (left.map Prod.fst) (left.flatMap Prod.snd) :: replay [] draws

/-- These are the diagnostics that an answer hands out. -/
def Answer.items : Answer → List Diagnostic
  | .started _ _ _ => []
  | .drawn item _ _ => item.toList
  | .drained items _ => items

/-- This is the number of diagnostics that are left behind an answer. -/
def Answer.length : Answer → Nat
  | .started _ length _ => length
  | .drawn _ length _ => length
  | .drained _ _ => 0

/-- This is what a step asks of the output with a number. -/
def Step.draw? (index : Nat) : Step → Option Draw
  | .start _ => none
  | .next place => if place = index then some .next else none
  | .drain place => if place = index then some .drain else none

/-- This is the output that a step begins. -/
def Step.output? : Step → Option String
  | .start output => some output
  | .next _ => none
  | .drain _ => none

namespace Session

/-- The steps draw only from outputs that have begun; `begun` is the number of those. -/
def Valid : Nat → List Step → Prop
  | _, [] => True
  | begun, .start _ :: steps => Valid (begun + 1) steps
  | begun, .next index :: steps => index < begun ∧ Valid begun steps
  | begun, .drain index :: steps => index < begun ∧ Valid begun steps

/-- These are the answers to what is asked of the output with a number. -/
def answersTo (index : Nat) (steps : List Step) (answers : List Answer) : List Answer :=
  (steps.zip answers).filterMap fun pair => (pair.1.draw? index).map fun _ => pair.2

/-- The output with a number has these warnings left. -/
def Holds (session : Session) (index : Nat) (warnings : List Warning) : Prop :=
  session.started[index]? = some ⟨session.offset, warnings⟩

@[simp] theorem offset_step (session : Session) (step : Step) :
    (session.step step).2.offset = session.offset := by
  cases step <;> rfl

theorem answersTo_run_cons (session : Session) (index : Nat) (step : Step) (steps : List Step) :
    answersTo index (step :: steps) (session.run (step :: steps)) =
      ((step.draw? index).map fun _ => (session.step step).1).toList ++
        answersTo index steps ((session.step step).2.run steps) := by
  rw [run, answersTo, List.zip_cons_cons, List.filterMap_cons]
  cases step.draw? index <;> rfl

/-- A step that asks nothing of an output leaves it as it is. -/
theorem holds_step_of_no_draw {session : Session} {index : Nat} {warnings : List Warning}
    (held : session.Holds index warnings) {step : Step} (silent : step.draw? index = none) :
    (session.step step).2.Holds index warnings := by
  have inside : index < session.started.length := (List.getElem?_eq_some_iff.mp held).1
  cases step with
  | start output =>
      change (session.started ++ _)[index]? = _
      rw [List.getElem?_append_left inside]
      exact held
  | next place =>
      have other : place ≠ index := by
        intro same
        simp [Step.draw?, same] at silent
      change (session.started.set place _)[index]? = _
      rw [List.getElem?_set_ne other]
      exact held
  | drain place =>
      have other : place ≠ index := by
        intro same
        simp [Step.draw?, same] at silent
      change (session.started.set place _)[index]? = _
      rw [List.getElem?_set_ne other]
      exact held

theorem pendingAt_of_holds {session : Session} {index : Nat} {warnings : List Warning}
    (held : session.Holds index warnings) :
    session.pendingAt index = ⟨session.offset, warnings⟩ := by
  rw [pendingAt, List.getD_eq_getElem?_getD, held, Option.getD_some]

theorem holds_set {session : Session} {index : Nat} {warnings : List Warning}
    (held : session.Holds index warnings) (left : List Warning) :
    Holds { session with started := session.started.set index ⟨session.offset, left⟩ } index
      left := by
  have inside : index < session.started.length := (List.getElem?_eq_some_iff.mp held).1
  exact List.getElem?_set_self inside

/-- Drawing one diagnostic takes it off the front of what is left. -/
theorem step_next_of_holds {session : Session} {index : Nat} {warnings : List Warning}
    (held : session.Holds index warnings) :
    let left := warnings.map (Warning.diagnose session.offset)
    (session.step (.next index)).1 =
        .drawn (left.head?.map Prod.fst) left.tail.length ((left.head?.map Prod.snd).getD []) ∧
      (session.step (.next index)).2.Holds index warnings.tail := by
  have pending := pendingAt_of_holds held
  cases warnings with
  | nil =>
      simp only [step, pending]
      exact ⟨rfl, holds_set held []⟩
  | cons warning warnings =>
      simp only [step, pending]
      refine ⟨?_, holds_set held warnings⟩
      simp [Pending.next, Pending.length]

/-- Draining takes all that is left. -/
theorem step_drain_of_holds {session : Session} {index : Nat} {warnings : List Warning}
    (held : session.Holds index warnings) :
    let left := warnings.map (Warning.diagnose session.offset)
    (session.step (.drain index)).1 = .drained (left.map Prod.fst) (left.flatMap Prod.snd) ∧
      (session.step (.drain index)).2.Holds index [] := by
  have pending := pendingAt_of_holds held
  simp only [step, pending]
  exact ⟨rfl, holds_set held []⟩

/-- Once an output has begun, the answers about it depend on its own list and on what is asked of
it. -/
theorem answersTo_run_of_holds {session : Session} {index : Nat} {warnings : List Warning}
    (held : session.Holds index warnings) (steps : List Step) :
    answersTo index steps (session.run steps) =
      replay (warnings.map (Warning.diagnose session.offset))
        (steps.filterMap (Step.draw? index)) := by
  induction steps generalizing session warnings with
  | nil => rfl
  | cons step steps inductionHypothesis =>
      rw [answersTo_run_cons, List.filterMap_cons]
      cases asked : step.draw? index with
      | none =>
          have kept := inductionHypothesis (holds_step_of_no_draw held asked)
          rw [kept, offset_step]
          rfl
      | some draw =>
          cases step with
          | start output => simp [Step.draw?] at asked
          | next place =>
              simp only [Step.draw?, Option.ite_none_right_eq_some, Option.some.injEq] at asked
              obtain ⟨same, next⟩ := asked
              obtain ⟨answer, rest⟩ := step_next_of_holds held
              rw [same, inductionHypothesis rest, answer, offset_step, ← next]
              simp [replay]
          | drain place =>
              simp only [Step.draw?, Option.ite_none_right_eq_some, Option.some.injEq] at asked
              obtain ⟨same, drain⟩ := asked
              obtain ⟨answer, rest⟩ := step_drain_of_holds held
              rw [same, inductionHypothesis rest, answer, offset_step, ← drain]
              simp [replay]

/-- A diagnosis draws its warnings with the offset it was made for. -/
theorem pending_diagnose (offset : Nat) (output : String) :
    (diagnose offset output).pending = ⟨offset, (diagnose offset output).pending.warnings⟩ := by
  rw [diagnose]
  cases Outcome.classify output <;> rfl

/-- An output that begins gets the next number. -/
theorem holds_step_start (session : Session) (output : String) :
    (session.step (.start output)).2.Holds session.started.length
      (diagnose session.offset output).pending.warnings := by
  change (session.started ++ [(diagnose session.offset output).pending])[_]? = _
  rw [List.getElem?_concat_length, pending_diagnose]
  rfl

/-- Nothing is asked of an output before it has begun. -/
theorem answersTo_run_of_begun {session : Session} {index : Nat} {output : String}
    {steps : List Step} (valid : Valid session.started.length steps)
    (ahead : session.started.length ≤ index)
    (begun : (steps.filterMap Step.output?)[index - session.started.length]? = some output) :
    answersTo index steps (session.run steps) =
      replay (drawings session.offset output) (steps.filterMap (Step.draw? index)) := by
  induction steps generalizing session with
  | nil => simp at begun
  | cons step steps inductionHypothesis =>
      rw [answersTo_run_cons, List.filterMap_cons]
      cases step with
      | start first =>
          have length : (session.step (.start first)).2.started.length =
              session.started.length + 1 := List.length_append
          change (first :: steps.filterMap Step.output?)[_]? = _ at begun
          by_cases now : session.started.length = index
          · have same : first = output := by simpa [now] using begun
            have held := holds_step_start session first
            rw [now, same] at held
            rw [same, answersTo_run_of_holds held, offset_step]
            rfl
          · have later : index - session.started.length =
                (index - (session.started.length + 1)) + 1 := by omega
            rw [later, List.getElem?_cons_succ] at begun
            rw [inductionHypothesis (by rw [length]; exact valid) (by omega)
              (by rw [length]; exact begun), offset_step]
            rfl
      | next place =>
          have other : place ≠ index := by
            have inside := valid.1
            omega
          have length : (session.step (.next place)).2.started.length =
              session.started.length := List.length_set
          rw [inductionHypothesis (by rw [length]; exact valid.2) (by omega)
            (by rw [length]; exact begun), offset_step]
          simp [Step.draw?, other]
      | drain place =>
          have other : place ≠ index := by
            have inside := valid.1
            omega
          have length : (session.step (.drain place)).2.started.length =
              session.started.length := List.length_set
          rw [inductionHypothesis (by rw [length]; exact valid.2) (by omega)
            (by rw [length]; exact begun), offset_step]
          simp [Step.draw?, other]

/-- The answers to draws hand out the diagnostics from the front. -/
theorem items_replay_front (left : List (Diagnostic × List String)) (draws : List Draw) :
    (replay left draws).flatMap Answer.items <+: left.map Prod.fst := by
  induction draws generalizing left with
  | nil => exact List.nil_prefix
  | cons draw draws inductionHypothesis =>
      cases draw with
      | next =>
          cases left with
          | nil => simpa [replay, Answer.items] using inductionHypothesis []
          | cons drawing left =>
              simpa [replay, Answer.items] using inductionHypothesis left
      | drain =>
          have nothing := List.prefix_nil.mp (inductionHypothesis [])
          simp [replay, Answer.items, nothing]

/-- The last answer reports how many diagnostics are left. -/
theorem length_replay (left : List (Diagnostic × List String)) (draws : List Draw) :
    ((replay left draws).getLast?.map Answer.length).getD left.length =
      left.length - ((replay left draws).flatMap Answer.items).length := by
  induction draws generalizing left with
  | nil => simp [replay]
  | cons draw draws inductionHypothesis =>
      have last (answer : Answer) (answers : List Answer) (fallback : Nat) :
          ((answer :: answers).getLast?.map Answer.length).getD fallback =
            (answers.getLast?.map Answer.length).getD answer.length := by
        rw [List.getLast?_cons]
        cases answers.getLast? <;> rfl
      cases draw with
      | next =>
          have later := inductionHypothesis left.tail
          rw [replay, last, Answer.length, later, List.flatMap_cons, List.length_append]
          cases left with
          | nil => simp
          | cons drawing left =>
              have one : (Answer.drawn ((drawing :: left).head?.map Prod.fst)
                  (drawing :: left).tail.length
                  (((drawing :: left).head?.map Prod.snd).getD [])).items.length = 1 := rfl
              rw [one, List.tail_cons, List.length_cons]
              omega
      | drain =>
          have nothing := List.prefix_nil.mp (items_replay_front [] draws)
          have later := inductionHypothesis []
          rw [nothing] at later
          rw [replay, last, Answer.length, List.flatMap_cons, nothing]
          simpa [Answer.items] using later

/-- The first answer about an output tells its notes, its length and the lines logged at once. -/
theorem getElem?_run_start (session : Session) {steps : List Step} {place : Nat} {output : String}
    (starts : steps[place]? = some (Step.start output)) :
    (session.run steps)[place]? =
      some (Answer.started (diagnose session.offset output).failures
        (drawings session.offset output).length (diagnose session.offset output).logs) := by
  induction steps generalizing session place with
  | nil => simp at starts
  | cons step steps inductionHypothesis =>
      rw [run]
      cases place with
      | zero =>
          rw [List.getElem?_cons_zero, Option.some.injEq] at starts
          rw [List.getElem?_cons_zero, starts]
          simp [Session.step, drawings, Pending.length]
      | succ place =>
          rw [List.getElem?_cons_succ] at starts
          rw [List.getElem?_cons_succ, inductionHypothesis _ starts, offset_step]

/-- Outputs drawn side by side do not disturb each other: each hands out its own diagnostics from
the front and reports how many are left, and the answers about it are those that it would give
alone. -/
theorem answers_of_interleaved_draws (offset : Nat) (steps : List Step) (valid : Valid 0 steps)
    (index : Nat) (output : String)
    (begun : (steps.filterMap Step.output?)[index]? = some output) :
    let answers := (Session.mk offset []).run steps
    let own := answersTo index steps answers
    let handed := own.flatMap Answer.items
    let eager := (diagnose offset output).pending.drain
    own = replay (drawings offset output) (steps.filterMap (Step.draw? index)) ∧
      handed = eager.1.take handed.length ∧
      (own.getLast?.map Answer.length).getD eager.1.length = eager.1.length - handed.length ∧
      ∀ place : Nat, steps[place]? = some (Step.start output) →
        answers[place]? = some (Answer.started (diagnose offset output).failures eager.1.length
          (diagnose offset output).logs) := by
  have own : answersTo index steps ((Session.mk offset []).run steps) =
      replay (drawings offset output) (steps.filterMap (Step.draw? index)) :=
    answersTo_run_of_begun valid (Nat.zero_le _) begun
  have eager : (diagnose offset output).pending.drain.1 =
      (drawings offset output).map Prod.fst := by
    rw [pending_diagnose]
    rfl
  dsimp only
  rw [own, eager, List.length_map]
  refine ⟨rfl, ?_, length_replay _ _, ?_⟩
  · exact List.prefix_iff_eq_take.mp (items_replay_front _ _)
  · intro place starts
    exact getElem?_run_start (Session.mk offset []) starts

/-- Two reports are drawn in turn; the first warning of the first one lies before its block. -/
theorem answers_of_two_reports :
    let first := "[[[],[],[[0,2,\"error\",\"a\",\"t (a)\"],[9,2,\"error\",\"b\",\"u\"]]]]"
    let second := "[[[],[],[[5,1,\"warning\",\"c\",\"v\"]]]]"
    let steps := [.start first, .next 0, .start second, .drain 1, .drain 0, .next 1, .next 0]
    Valid 0 steps ∧ (steps.filterMap Step.output?)[0]? = some first ∧
      answersTo 0 steps ((Session.mk 3 []).run steps) =
        [.drawn (some ⟨0, 1, "error", "a", "t"⟩) 1
            ["line 0:2 of rule 'a' lies before the style block; clamped to 0"],
          .drained [⟨5, 1, "error", "b", "u"⟩] [], .drawn none 0 []] := by
  dsimp only
  refine ⟨by simp [Valid], rfl, ?_⟩
  rw [(answers_of_interleaved_draws 3 _ (by simp [Valid]) 0 _ rfl).1]
  decide +kernel

end Session

end SheetLint.Diagnosis
