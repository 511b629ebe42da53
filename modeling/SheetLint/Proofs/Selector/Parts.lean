/-
This file compares names with scopes by their parts between the dots. From this order follows how
the acceptance of a document changes with its scopes and with the excluded names.
-/

import Mathlib.Data.List.Forall2
import SheetLint.Proofs.Selector.Reading

namespace SheetLint

namespace Selector

/-- These are the parts of a name or scope between its dots; dots at its ends and dots side by side
have empty parts beside them. -/
def partsOf (name : ScopeName) : List (List Char) :=
  name.splitOn '.'

theorem partsOf_append_dot (name more : ScopeName) :
    partsOf (name ++ '.' :: more) = partsOf name ++ partsOf more :=
  List.splitOn_append_cons_self name more

theorem partsOf_injective : Function.Injective partsOf := by
  intro name other same
  have joined := congrArg ['.'].intercalate same
  rwa [partsOf, partsOf, List.intercalate_splitOn, List.intercalate_splitOn] at joined

/-- Further parts stand behind one more dot. -/
theorem partsOf_prefix_iff (name scope : ScopeName) :
    partsOf name <+: partsOf scope ↔ scope = name ∨ ∃ more, scope = name ++ '.' :: more := by
  constructor
  · rintro ⟨rest, whole⟩
    by_cases nothing : rest = []
    · rw [nothing, List.append_nil] at whole
      exact Or.inl (partsOf_injective whole.symm)
    · have dotFree : ∀ part ∈ rest, '.' ∉ part := by
        intro part member
        have inside : part ∈ partsOf scope := whole ▸ List.mem_append_right _ member
        exact Text.not_mem_of_mem_splitOn inside
      have parts : partsOf (['.'].intercalate rest) = rest :=
        List.splitOn_intercalate '.' dotFree nothing
      refine Or.inr ⟨['.'].intercalate rest, partsOf_injective ?_⟩
      rw [partsOf_append_dot, parts, whole]
  · rintro (rfl | ⟨more, rfl⟩)
    · exact List.prefix_rfl
    · rw [partsOf_append_dot]
      exact List.prefix_append _ _

theorem nameMatches_iff_parts (name scope : ScopeName) :
    nameMatches name scope = true ↔ partsOf name <+: partsOf scope := by
  rw [nameMatches_iff, partsOf_prefix_iff]

end Selector

open Selector

variable {scopes others : List ScopeName} {name : ScopeName}

theorem present_iff_parts :
    Present scopes name ↔ ∃ scope ∈ scopes, partsOf name <+: partsOf scope := by
  simp only [Present, partsOf_prefix_iff]

theorem present_congr (same : ∀ scope, scope ∈ scopes ↔ scope ∈ others) (name : ScopeName) :
    Present scopes name ↔ Present others name := by
  simp only [Present, same]

/-- The beginning of a present name is present. -/
theorem Present.shorten (present : Present scopes name) {shorter : ScopeName}
    (begins : partsOf shorter <+: partsOf name) : Present scopes shorter := by
  rw [present_iff_parts] at present ⊢
  obtain ⟨scope, member, further⟩ := present
  exact ⟨scope, member, begins.trans further⟩

/-- A name stays present when scopes are added or go on behind a dot. -/
theorem Present.grow (present : Present scopes name)
    (grown : ∀ scope ∈ scopes, scope ∈ others ∨ ∃ more, scope ++ '.' :: more ∈ others) :
    Present others name := by
  rw [present_iff_parts] at present ⊢
  obtain ⟨scope, member, begins⟩ := present
  rcases grown scope member with kept | ⟨more, extended⟩
  · exact ⟨scope, kept, begins⟩
  · refine ⟨scope ++ '.' :: more, extended, begins.trans ?_⟩
    rw [partsOf_append_dot]
    exact List.prefix_append _ _

/-- The other alternative includes the same names, and its excluded names are those of the first
one or beginnings of them. -/
structure Alternative.Coarsened (alternative other : Alternative) : Prop where
  included : alternative.included = other.included
  excluded : List.Forall₂ (List.Forall₂ fun name shorter => partsOf shorter <+: partsOf name)
    alternative.excluded other.excluded

/-- The other selector differs in excluded names only, which are beginnings of the first one's. -/
def Selector.Coarsened (selector other : Selector) : Prop :=
  List.Forall₂ Alternative.Coarsened selector.alternatives other.alternatives

/-- Each item on the left has a partner on the right. -/
theorem exists_partner {Item Other : Type} {relation : Item → Other → Prop} {items : List Item}
    {partners : List Other} (each : List.Forall₂ relation items partners) {item : Item}
    (member : item ∈ items) : ∃ partner ∈ partners, relation item partner := by
  induction each with
  | nil => exact absurd member List.not_mem_nil
  | cons first _ inductionHypothesis =>
      rw [List.exists_mem_cons_iff]
      rcases List.mem_cons.mp member with rfl | later
      · exact Or.inl first
      · exact Or.inr (inductionHypothesis later)

namespace Alternative

variable {alternative other : Alternative}

theorem accepts_congr (alternative : Alternative)
    (same : ∀ scope, scope ∈ scopes ↔ scope ∈ others) :
    alternative.accepts scopes = alternative.accepts others := by
  rw [Bool.eq_iff_iff, accepts_iff, accepts_iff]
  simp only [present_congr same]

theorem accepts_of_grown (free : alternative.excluded = [])
    (grown : ∀ scope ∈ scopes, scope ∈ others ∨ ∃ more, scope ++ '.' :: more ∈ others)
    (accepted : alternative.accepts scopes = true) : alternative.accepts others = true := by
  rw [accepts_iff, free] at accepted ⊢
  exact ⟨fun name member => (accepted.1 name member).grow grown, by simp⟩

theorem Coarsened.accepts (coarsened : alternative.Coarsened other)
    (accepted : other.accepts scopes = true) : alternative.accepts scopes = true := by
  obtain ⟨included, groups⟩ := coarsened
  rw [accepts_iff] at accepted ⊢
  obtain ⟨present, missing⟩ := accepted
  refine ⟨included ▸ present, fun group member => ?_⟩
  obtain ⟨beginnings, there, shorter⟩ := exists_partner groups member
  obtain ⟨beginning, inside, absent⟩ := missing beginnings there
  obtain ⟨name, named, begins⟩ := exists_partner shorter.flip inside
  exact ⟨name, named, fun present => absent (present.shorten begins)⟩

end Alternative

namespace Selector

variable {selector other : Selector}

theorem Coarsened.accepts (coarsened : selector.Coarsened other)
    (accepted : other.accepts scopes = true) : selector.accepts scopes = true := by
  rw [Selector.accepts, List.any_eq_true] at accepted ⊢
  obtain ⟨coarse, member, accepts⟩ := accepted
  obtain ⟨alternative, there, coarsened⟩ := exists_partner coarsened.flip member
  exact ⟨alternative, there, coarsened.accepts accepts⟩

/-- A name matches a scope when its parts are the first parts of the scope, and this is a partial
order. So a selector takes the scopes of a document as a set. Without excluded names it accepts a
document also when there are more scopes or when scopes go on behind a dot, and it does not accept
one for having excluded names cut short at a dot. -/
theorem accepts_along_parts :
    (∀ name scope, nameMatches name scope = true ↔ partsOf name <+: partsOf scope) ∧
    (∀ name, nameMatches name name = true) ∧
    (∀ name scope further, nameMatches name scope = true → nameMatches scope further = true →
      nameMatches name further = true) ∧
    (∀ name scope, nameMatches name scope = true → nameMatches scope name = true →
      name = scope) ∧
    (∀ (selector : Selector) (scopes others : List ScopeName),
      (∀ scope, scope ∈ scopes ↔ scope ∈ others) →
        selector.accepts scopes = selector.accepts others) ∧
    (∀ (selector : Selector) (scopes others : List ScopeName),
      (∀ alternative ∈ selector.alternatives, alternative.excluded = []) →
      (∀ scope ∈ scopes, scope ∈ others ∨ ∃ more, scope ++ '.' :: more ∈ others) →
        selector.accepts scopes = true → selector.accepts others = true) ∧
    ∀ (selector other : Selector) (scopes : List ScopeName), selector.Coarsened other →
      selector.accepts scopes = false → other.accepts scopes = false := by
  simp only [nameMatches_iff_parts, List.prefix_rfl, true_and, implies_true]
  refine ⟨fun name scope further => List.IsPrefix.trans, ?_, ?_, ?_, ?_⟩
  · intro name scope begins back
    exact partsOf_injective (begins.eq_of_length_le back.length_le)
  · intro selector scopes others same
    simp only [Selector.accepts, Alternative.accepts_congr _ same]
  · intro selector scopes others free grown accepted
    rw [Selector.accepts, List.any_eq_true] at accepted ⊢
    obtain ⟨alternative, member, accepts⟩ := accepted
    have free := free alternative member
    exact ⟨alternative, member, Alternative.accepts_of_grown free grown accepts⟩
  · intro selector other scopes coarsened refused
    rw [Bool.eq_false_iff] at refused ⊢
    exact fun accepted => refused (coarsened.accepts accepted)

/-- The last part of the name and the second one of its scope are empty. A document stays accepted
with one scope more and another one longer, and stays refused when the name that is excluded loses
a part. -/
theorem accepts_along_empty_part :
    let free := parse "text source.css."
    let strict := parse "source, text - meta.value.style"
    let coarse := parse "source, text - meta.value"
    let scopes := ["text.html", "source.css."].map String.toList
    let others := ["source.css..vue", "x", "text.html"].map String.toList
    let value := ["text", "meta.value.style.html"].map String.toList
    nameMatches "source.css.".toList "source.css..vue".toList = true ∧
      free.accepts scopes = true ∧ free.accepts others = true ∧
      strict.Coarsened coarse ∧ strict.accepts value = false ∧ coarse.accepts value = false := by
  intro free strict coarse scopes others value
  obtain ⟨matching, -, -, -, -, growing, shortening⟩ := accepts_along_parts
  have accepted : free.accepts scopes = true := by decide
  have refused : strict.accepts value = false := by decide
  have coarsened : strict.Coarsened coarse :=
    .cons ⟨rfl, .nil⟩ (.cons ⟨rfl, .cons (.cons (by decide) .nil) .nil⟩ .nil)
  have grown : ∀ scope ∈ scopes, scope ∈ others ∨ ∃ more, scope ++ '.' :: more ∈ others :=
    List.forall_mem_cons.mpr ⟨Or.inl (by decide),
      List.forall_mem_singleton.mpr (Or.inr ⟨"vue".toList, by decide⟩)⟩
  exact ⟨(matching _ _).mpr (by decide), accepted,
    growing free scopes others (by decide) grown accepted,
    coarsened, refused, shortening strict coarse value coarsened refused⟩

end Selector

end SheetLint
