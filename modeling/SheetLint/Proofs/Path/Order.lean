/-
This file shows that the order of paths is a linear order of their components: two paths are equal
in it exactly when they have the same components, however these are spelled.
-/

import Mathlib.Data.List.Sort
import SheetLint.Proofs.Path.Absolute

namespace SheetLint.Path

theorem compareTexts_eq : compareTexts = List.compareLex (compareOn Char.toNat) := by
  funext text other
  induction text generalizing other with
  | nil => cases other <;> rfl
  | cons first rest inductionHypothesis =>
      cases other with
      | nil => rfl
      | cons second others =>
          rw [compareTexts, List.compareLex_cons_cons, ← inductionHypothesis, compareOn]
          cases Ord.compare first.toNat second.toNat <;> rfl

/-- Components are compared by their kinds, and ordinary names by their texts. -/
theorem Component.compare_eq :
    Component.compare =
      compareLex (compareOn Component.rank) fun component other =>
        compareTexts component.text other.text := by
  funext component other
  cases component <;> cases other <;> rfl

theorem compareComponents_eq : compareComponents = List.compareLex Component.compare := by
  funext components others
  induction components generalizing others with
  | nil => cases others <;> rfl
  | cons first rest inductionHypothesis =>
      cases others with
      | nil => rfl
      | cons second others =>
          rw [compareComponents, List.compareLex_cons_cons, ← inductionHypothesis]
          cases first.compare second <;> rfl

instance : Std.LawfulEqCmp (compareOn Char.toNat) where
  eq_of_compare equal := Char.toNat_inj.mp (Nat.compare_eq_eq.mp equal)

instance : Std.TransCmp compareTexts := by
  rw [compareTexts_eq]
  infer_instance

instance : Std.LawfulEqCmp compareTexts := by
  rw [compareTexts_eq]
  infer_instance

instance : Std.TransCmp fun component other : Component =>
    compareTexts component.text other.text where
  eq_swap {component other} :=
    @Std.OrientedCmp.eq_swap _ compareTexts _ component.text other.text
  isLE_trans {component other more} :=
    @Std.TransCmp.isLE_trans _ compareTexts _ component.text other.text more.text

instance : Std.TransCmp Component.compare := by
  rw [Component.compare_eq]
  infer_instance

instance : Std.LawfulEqCmp Component.compare where
  compare_self := Std.ReflCmp.compare_self
  eq_of_compare := by
    intro component other equal
    rw [Component.compare_eq, compareLex_eq_eq] at equal
    have kinds := Nat.compare_eq_eq.mp equal.1
    have texts := Std.LawfulEqCmp.eq_of_compare equal.2
    cases component <;> cases other <;> simp_all [Component.rank, Component.text]

instance : Std.TransCmp compareComponents := by
  rw [compareComponents_eq]
  infer_instance

instance : Std.LawfulEqCmp compareComponents := by
  rw [compareComponents_eq]
  infer_instance

/-- Paths are equal in their order when they have the same components. -/
theorem compare_eq_iff (path other : Path) :
    path.compare other = .eq ↔ path.components = other.components :=
  @Std.LawfulEqCmp.compare_eq_iff_eq _ compareComponents _ _ _

/-- These components come before the other ones. -/
def Before (components others : List Component) : Prop :=
  compareComponents components others = .lt

theorem Before.trans {components others more : List Component} (first : Before components others)
    (second : Before others more) : Before components more :=
  Std.TransCmp.lt_trans first second

instance : Std.Irrefl Before where
  irrefl components before := by
    have same : compareComponents components components = .eq := Std.ReflCmp.compare_self
    rw [Before, same] at before
    exact absurd before (by decide)

instance : Std.Antisymm Before where
  antisymm components _ before after :=
    absurd (before.trans after) (Std.Irrefl.irrefl components)

end SheetLint.Path
