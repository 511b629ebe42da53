/-
This file shows which spellings stand for whole numbers and how whole numbers are printed.
-/

import SheetLint.Json.Writer
import SheetLint.Proofs.Json.Numbers

namespace SheetLint.Json

open SheetLint.Text

/-- The spelling has neither point nor exponent and stands for the whole number; a minus never
stands in front of zero. -/
structure Literal.IsInteger (literal : Literal) (value : Int) : Prop where
  noFraction : literal.fraction = []
  noExponent : literal.exponent = none
  signed : value = if literal.positive then (ofDigits 10 literal.whole : Int)
    else -(ofDigits 10 literal.whole : Int)
  noMinusZero : literal.positive = false → value ≠ 0

/-- The number fits 64 bits, with sign or without. -/
def FitsWord (value : Int) : Prop :=
  -9223372036854775808 ≤ value ∧ value < 18446744073709551616

theorem scaledNumber?_ne_whole (positive : Bool) (significand : Nat) (exponent value : Int) :
    scaledNumber? positive significand exponent ≠ some (.whole value) := by
  rw [scaledNumber?]
  cases scale 8 (Float.ofNat significand) exponent <;> simp

/-- A number with a point or an exponent is never whole. -/
theorem Literal.floating?_ne_whole (literal : Literal) (value : Int) :
    literal.floating? ≠ some (.whole value) := by
  rw [Literal.floating?]
  cases literal.exponent with
  | none => exact scaledNumber?_ne_whole _ _ _ _
  | some exponent =>
      rw [tailNumber?, poweredNumber?]
      split
      · exact scaledNumber?_ne_whole _ _ _ _
      · split <;> simp

theorem wholeNumber_eq_whole_iff (positive : Bool) (magnitude : Nat) (value : Int) :
    wholeNumber positive magnitude = .whole value ↔
      (value = if positive then (magnitude : Int) else -(magnitude : Int)) ∧
        (positive = false → value ≠ 0) ∧ -9223372036854775808 ≤ value := by
  rw [wholeNumber]
  cases positive with
  | true =>
      simp only [↓reduceIte, Number.whole.injEq, reduceCtorEq, IsEmpty.forall_iff, true_and]
      omega
  | false =>
      simp only [Bool.false_eq_true, ↓reduceIte, forall_const]
      split
      · next room =>
          obtain ⟨positive, small⟩ := room
          replace small : magnitude ≤ 9223372036854775808 := small
          rw [Number.whole.injEq]
          omega
      · next outside =>
          replace outside : ¬ (0 < magnitude ∧ magnitude ≤ 9223372036854775808) := outside
          refine iff_of_false (by simp) ?_
          omega

/-- Whole numbers are spelled without point and exponent and fit 64 bits, with sign or without. -/
theorem Literal.number?_eq_whole_iff (literal : Literal) (value : Int) :
    literal.number? = some (.whole value) ↔
      literal.IsInteger value ∧ FitsWord value := by
  rw [Literal.number?]
  by_cases plain : literal.fraction = [] ∧ literal.exponent.isNone ∧
      ofDigits 10 literal.whole < significandLimit
  · obtain ⟨noFraction, noExponent, room⟩ := plain
    replace room : ofDigits 10 literal.whole < 18446744073709551616 := room
    rw [if_pos ⟨noFraction, noExponent, room⟩, Option.some.injEq, wholeNumber_eq_whole_iff]
    constructor
    · intro given
      obtain ⟨equal, noMinusZero, lower⟩ := given
      refine ⟨⟨noFraction, Option.isNone_iff_eq_none.mp noExponent, equal, noMinusZero⟩, lower, ?_⟩
      rw [equal]
      split <;> omega
    · intro given
      obtain ⟨⟨_, _, equal, noMinusZero⟩, lower, _⟩ := given
      exact ⟨equal, noMinusZero, lower⟩
  · rw [if_neg plain]
    refine iff_of_false (literal.floating?_ne_whole value) ?_
    intro given
    obtain ⟨⟨noFraction, noExponent, equal, _⟩, lower, upper⟩ := given
    refine plain ⟨noFraction, by rw [noExponent]; rfl, ?_⟩
    change ofDigits 10 literal.whole < 18446744073709551616
    split at equal <;> omega

theorem digitChar_decimal :
    ∀ digit < 10, isDigit (Nat.digitChar digit) = true ∧
      digitValue (Nat.digitChar digit) = digit ∧ (Nat.digitChar digit = '0' → digit = 0) := by
  decide

/-- The digits of a number are decimal digits without a leading zero that stand for the number. -/
theorem toDigits_decimal (number : Nat) :
    (∀ digit ∈ Nat.toDigits 10 number, isDigit digit = true) ∧
      ofDigits 10 (Nat.toDigits 10 number) = number ∧
      ((Nat.toDigits 10 number).head? = some '0' → number = 0) := by
  induction number using Nat.strongRecOn with
  | ind number inductionHypothesis =>
      by_cases small : number < 10
      · obtain ⟨decimal, value, zero⟩ := digitChar_decimal number small
        rw [Nat.toDigits_of_lt_base small]
        refine ⟨?_, ?_, ?_⟩
        · intro digit member
          rw [List.mem_singleton.mp member]
          exact decimal
        · simp [ofDigits, value]
        · intro first
          exact zero (Option.some.inj first)
      · have large : 10 ≤ number := Nat.le_of_not_lt small
        have remainder : number % 10 < 10 := Nat.mod_lt number (by decide)
        obtain ⟨decimal, value, _⟩ := digitChar_decimal (number % 10) remainder
        obtain ⟨frontDecimal, frontValue, frontZero⟩ :=
          inductionHypothesis (number / 10) (by omega)
        rw [Nat.toDigits_of_base_le (by decide) large]
        refine ⟨?_, ?_, ?_⟩
        · intro digit member
          rcases List.mem_append.mp member with front | last
          · exact frontDecimal digit front
          · rw [List.mem_singleton.mp last]
            exact decimal
        · rw [ofDigits_append_singleton, frontValue, value]
          omega
        · intro first
          rw [List.head?_append_of_ne_nil _ Nat.toDigits_ne_nil] at first
          have front := frontZero first
          omega

/-- This is the spelling of a whole number. -/
def Literal.ofInt (value : Int) : Literal where
  positive := decide (0 ≤ value)
  whole := Nat.toDigits 10 value.natAbs
  fraction := []
  exponent := none
  filled := Nat.toDigits_ne_nil
  wholeDecimal := (toDigits_decimal value.natAbs).1
  noLeadingZero := fun first => by
    rw [(toDigits_decimal value.natAbs).2.2 first, Nat.toDigits_zero]
  fractionDecimal := fun _ member => absurd member List.not_mem_nil

theorem Literal.text_ofInt (value : Int) : (Literal.ofInt value).text = writeInteger value := by
  have body : (Literal.ofInt value).body = Nat.toDigits 10 value.natAbs :=
    List.append_nil _
  rw [Literal.text, body, writeInteger, Literal.ofInt]
  by_cases negative : value < 0
  · rw [if_pos negative, if_neg (by simpa using negative)]
  · rw [if_neg negative, if_pos (by simpa using negative)]

/-- Whole numbers of 64 bits, with sign or without, are read back. -/
theorem Literal.number?_ofInt {value : Int} (fits : FitsWord value) :
    (Literal.ofInt value).number? = some (.whole value) := by
  have digits := (toDigits_decimal value.natAbs).2.1
  refine (Literal.number?_eq_whole_iff _ value).mpr ⟨⟨rfl, rfl, ?_, ?_⟩, fits⟩
  · simp only [Literal.ofInt, digits, decide_eq_true_eq]
    split <;> omega
  · intro negative
    have below := of_decide_eq_false negative
    omega

end SheetLint.Json
