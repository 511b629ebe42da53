/-
This file shows that a number is read exactly from its spellings.
-/

import Mathlib.Data.List.TakeWhile
import SheetLint.Proofs.Json.Grammar

namespace SheetLint.Json

open SheetLint.Text

/-- The text does not go on with a digit. -/
def NoDigit (text : List Char) : Prop :=
  ∀ character, text.head? = some character → isDigit character = false

/-- The text does not go on with anything that could belong to a number. -/
def EndsNumber (text : List Char) : Prop :=
  ∀ character, text.head? = some character →
    isDigit character = false ∧ character ≠ '.' ∧ character ≠ 'e' ∧ character ≠ 'E'

theorem EndsNumber.noDigit {text : List Char} (ends : EndsNumber text) : NoDigit text :=
  fun character first => (ends character first).1

theorem noDigit_dropWhile (text : List Char) : NoDigit (text.dropWhile isDigit) := by
  intro character first
  have stops := List.head?_dropWhile_not isDigit text
  rw [first] at stops
  simpa using stops

/-- Digits in front of something else are the longest run of digits. -/
theorem takeWhile_digits_append {digits rest : List Char}
    (decimal : ∀ digit ∈ digits, isDigit digit = true) (ends : NoDigit rest) :
    (digits ++ rest).takeWhile isDigit = digits ∧ (digits ++ rest).dropWhile isDigit = rest := by
  have stops : rest.takeWhile isDigit = [] ∧ rest.dropWhile isDigit = rest := by
    cases rest with
    | nil => exact ⟨rfl, rfl⟩
    | cons character rest => simp [ends character rfl]
  rw [List.takeWhile_append_of_pos decimal, List.dropWhile_append_of_pos decimal, stops.1, stops.2,
    List.append_nil]
  exact ⟨rfl, rfl⟩

/-- Taking digits does not look behind the run of digits. -/
theorem takeDigits_append {digits rest : List Char}
    (decimal : ∀ digit ∈ digits, isDigit digit = true) (ends : NoDigit rest)
    (significand taken : Nat) :
    takeDigits significand taken (digits ++ rest) =
      ((takeDigits significand taken digits).1, (takeDigits significand taken digits).2.1,
        (takeDigits significand taken digits).2.2 ++ rest) := by
  induction digits generalizing significand taken with
  | nil =>
      cases rest with
      | nil => rfl
      | cons character rest => simp [takeDigits, ends character rfl]
  | cons digit digits inductionHypothesis =>
      have later := inductionHypothesis fun other member =>
        decimal other (List.mem_cons_of_mem _ member)
      rw [List.cons_append, takeDigits, takeDigits]
      split
      · exact later _ _
      · rfl

/-- The count of digits taken goes along with the rest. -/
theorem takeDigits_count (digits : List Char) (significand taken more : Nat) :
    takeDigits significand (taken + more) digits =
      ((takeDigits significand taken digits).1, (takeDigits significand taken digits).2.1 + more,
        (takeDigits significand taken digits).2.2) := by
  induction digits generalizing significand taken with
  | nil => rfl
  | cons digit digits inductionHypothesis =>
      rw [takeDigits, takeDigits]
      split
      · rw [Nat.add_right_comm]
        exact inductionHypothesis _ _
      · rfl

/-- The digits are split into those that were taken and those that were left. -/
theorem takeDigits_split (digits : List Char) (significand taken : Nat) :
    ∃ front, digits = front ++ (takeDigits significand taken digits).2.2 ∧
      (takeDigits significand taken digits).2.1 = taken + front.length := by
  induction digits generalizing significand taken with
  | nil => exact ⟨[], rfl, rfl⟩
  | cons digit digits inductionHypothesis =>
      rw [takeDigits]
      split
      · obtain ⟨front, whole, count⟩ :=
          inductionHypothesis (significand * 10 + digitValue digit) (taken + 1)
        refine ⟨digit :: front, ?_, ?_⟩
        · rw [List.cons_append, ← whole]
        · rw [count, List.length_cons]
          omega
      · exact ⟨[], rfl, rfl⟩

/-- This is the number that digits make behind a number. -/
def appendDigits (number : Nat) (digits : List Char) : Nat :=
  digits.foldl (fun number digit => number * 10 + digitValue digit) number

theorem ofDigits_cons (digit : Char) (digits : List Char) :
    ofDigits 10 (digit :: digits) = appendDigits (digitValue digit) digits := by
  simp [ofDigits, appendDigits]

/-- Digits only make a number larger. -/
theorem le_appendDigits (number : Nat) (digits : List Char) :
    number ≤ appendDigits number digits := by
  induction digits generalizing number with
  | nil => exact Nat.le_refl _
  | cons digit digits inductionHypothesis =>
      have more : _ ≤ appendDigits number (digit :: digits) :=
        inductionHypothesis (number * 10 + digitValue digit)
      omega

/-- The significand takes all digits exactly when it has room for the whole number. -/
theorem takeDigits_left_eq_nil_iff {digits : List Char}
    (decimal : ∀ digit ∈ digits, isDigit digit = true) (significand taken : Nat)
    (room : significand < significandLimit) :
    ((takeDigits significand taken digits).2.2 = [] ↔
      appendDigits significand digits < significandLimit) ∧
    ((takeDigits significand taken digits).2.2 = [] →
      (takeDigits significand taken digits).1 = appendDigits significand digits) := by
  induction digits generalizing significand taken with
  | nil => simp [takeDigits, appendDigits, room]
  | cons digit digits inductionHypothesis =>
      have isDecimal : isDigit digit = true := decimal digit List.mem_cons_self
      rw [takeDigits, isDecimal, Bool.true_and]
      by_cases fits : significand * 10 + digitValue digit < significandLimit
      · rw [if_pos (by simpa using fits)]
        exact inductionHypothesis
          (fun other member => decimal other (List.mem_cons_of_mem _ member))
          _ _ fits
      · have large : _ ≤ appendDigits significand (digit :: digits) :=
          le_appendDigits (significand * 10 + digitValue digit) digits
        rw [if_neg (by simpa using fits)]
        simp only [reduceCtorEq, false_iff, false_implies, and_true]
        omega

theorem finishFloat_toOption (positive : Bool) (significand : Nat) (exponent : Int)
    (rest : List Char) :
    (finishFloat positive significand exponent rest).toOption =
      (scaledNumber? positive significand exponent).map fun number => (number, rest) := by
  rw [finishFloat, scaledNumber?]
  cases scale 8 (Float.ofNat significand) exponent <;> rfl

/-- The exponent is the number of its digits. -/
theorem readExponentDigits_toOption (positive : Bool) (significand : Nat) (start : Int)
    (grows : Bool) (size : Nat) (small : size < exponentLimit) {digits rest : List Char}
    (decimal : ∀ digit ∈ digits, isDigit digit = true) (ends : NoDigit rest) :
    (readExponentDigits positive significand start grows size (digits ++ rest)).toOption =
      (poweredNumber? positive significand start grows (appendDigits size digits)).map
        fun number => (number, rest) := by
  induction digits generalizing size with
  | nil =>
      rw [List.nil_append, appendDigits, List.foldl_nil, poweredNumber?, if_pos small]
      cases rest with
      | nil => rw [readExponentDigits, finishFloat_toOption]
      | cons character rest =>
          rw [readExponentDigits, if_neg (by simp [ends character rfl]), finishFloat_toOption]
  | cons digit digits inductionHypothesis =>
      have others : ∀ digit ∈ digits, isDigit digit = true :=
        fun other member => decimal other (List.mem_cons_of_mem _ member)
      rw [List.cons_append, readExponentDigits, if_pos (decimal digit List.mem_cons_self)]
      by_cases fits : size * 10 + digitValue digit < exponentLimit
      · rw [if_pos fits, inductionHypothesis _ fits others]
        rfl
      · have large : _ ≤ appendDigits size (digit :: digits) :=
          le_appendDigits (size * 10 + digitValue digit) digits
        have beyond : ¬ appendDigits size (digit :: digits) < exponentLimit := by omega
        rw [if_neg fits, poweredNumber?, if_neg beyond, (takeWhile_digits_append others ends).2]
        by_cases lost : (grows && significand != 0) = true
        · rw [if_pos lost, if_pos lost]
          rfl
        · rw [if_neg lost, if_neg lost]
          rfl

theorem digit_ne {digit : Char} (decimal : isDigit digit = true) :
    digit ≠ '+' ∧ digit ≠ '-' ∧ digit ≠ '.' ∧ digit ≠ 'e' ∧ digit ≠ 'E' := by
  refine ⟨?_, ?_, ?_, ?_, ?_⟩ <;>
    · intro equal
      rw [equal] at decimal
      exact absurd decimal (by decide)

/-- An exponent is read from its sign and its digits. -/
theorem readExponent_toOption (positive : Bool) (significand : Nat) (start : Int)
    (exponent : Exponent) {rest : List Char} (ends : NoDigit rest) :
    (readExponent positive significand start
        (signText exponent.sign ++ (exponent.digits ++ rest))).toOption =
      (tailNumber? positive significand start (some exponent)).map
        fun number => (number, rest) := by
  obtain ⟨capital, sign, digits, filled, decimal⟩ := exponent
  cases digits with
  | nil => exact absurd rfl filled
  | cons digit digits =>
      have first : isDigit digit = true := decimal digit List.mem_cons_self
      have small : digitValue digit < exponentLimit :=
        Nat.lt_trans (digitValue_lt_ten first) (by decide)
      have read := readExponentDigits_toOption positive significand start (sign != some false)
        (digitValue digit) small (fun other member => decimal other (List.mem_cons_of_mem _ member))
        ends
      rw [tailNumber?, Exponent.grows, ofDigits_cons, ← read]
      obtain ⟨noPlus, noMinus, _⟩ := digit_ne first
      rcases sign with _ | _ | _
      · simp [signText, readExponent, first, noPlus, noMinus]
        rfl
      · simp [signText, readExponent, first]
      · simp [signText, readExponent, first]
        rfl

/-- Behind a sign the exponent is the longest run of digits. -/
theorem exponent_of_digits {positive : Bool} {significand : Nat} {start : Int}
    {behind rest : List Char} {number : Number} (capital : Bool) (sign : Option Bool) {digit : Char}
    (decimal : isDigit digit = true)
    (read : readExponent positive significand start (signText sign ++ digit :: behind) =
      .ok (number, rest)) :
    ∃ exponent : Exponent, exponent.capital = capital ∧
      signText sign ++ digit :: behind = signText exponent.sign ++ (exponent.digits ++ rest) ∧
      NoDigit rest ∧ tailNumber? positive significand start (some exponent) = some number := by
  have decimals : ∀ other ∈ digit :: behind.takeWhile isDigit, isDigit other = true := by
    intro other member
    rcases List.mem_cons.mp member with same | later
    · rw [same, decimal]
    · exact List.mem_takeWhile_imp later
  let exponent : Exponent :=
    ⟨capital, sign, digit :: behind.takeWhile isDigit, List.cons_ne_nil _ _, decimals⟩
  have whole : signText sign ++ digit :: behind =
      signText exponent.sign ++ (exponent.digits ++ behind.dropWhile isDigit) := by
    rw [List.cons_append, List.takeWhile_append_dropWhile]
  have reading := readExponent_toOption positive significand start exponent
    (noDigit_dropWhile behind)
  rw [← whole, read] at reading
  obtain ⟨found, value, pair⟩ := Option.map_eq_some_iff.mp reading.symm
  rw [Prod.mk.injEq] at pair
  rw [pair.2] at whole
  refine ⟨exponent, rfl, whole, ?_, by rw [value, pair.1]⟩
  rw [← pair.2]
  exact noDigit_dropWhile behind

/-- What was read as an exponent is spelled where it stood. -/
theorem exponent_of_readExponent {positive : Bool} {significand : Nat} {start : Int}
    {text rest : List Char} {number : Number} (capital : Bool)
    (read : readExponent positive significand start text = .ok (number, rest)) :
    ∃ exponent : Exponent, exponent.capital = capital ∧
      text = signText exponent.sign ++ (exponent.digits ++ rest) ∧ NoDigit rest ∧
      tailNumber? positive significand start (some exponent) = some number := by
  cases text with
  | nil => exact absurd read (by simp [readExponent])
  | cons first behind =>
      by_cases plus : first = '+'
      · cases behind with
        | nil => simp [plus, readExponent] at read
        | cons digit behind =>
            by_cases decimal : isDigit digit = true
            · rw [plus] at read ⊢
              exact exponent_of_digits capital (some true) decimal read
            · simp [plus, readExponent, decimal] at read
      · by_cases minus : first = '-'
        · cases behind with
          | nil => simp [minus, readExponent] at read
          | cons digit behind =>
              by_cases decimal : isDigit digit = true
              · rw [minus] at read ⊢
                exact exponent_of_digits capital (some false) decimal read
              · simp [minus, readExponent, decimal] at read
        · by_cases decimal : isDigit first = true
          · exact exponent_of_digits capital none decimal read
          · simp [plus, minus, readExponent, decimal] at read

theorem ok_of_toOption {Result : Type} {reading : Reading Result} {result : Result × List Char}
    (read : reading.toOption = some result) : reading = .ok result := by
  cases reading with
  | error fault => exact absurd read (by simp [Except.toOption])
  | ok found => rw [Option.some.inj read]

theorem toOption_of_ok {Result : Type} {reading : Reading Result} {result : Result × List Char}
    (read : reading = .ok result) : reading.toOption = some result := by
  rw [read]
  rfl

/-- Behind digits a text without the mark of an exponent has none. -/
theorem readTail_of_no_mark {text : List Char}
    (noMark : ∀ character, text.head? = some character → character ≠ 'e' ∧ character ≠ 'E')
    (positive : Bool) (significand : Nat) (start : Int) :
    readTail positive significand start text = finishFloat positive significand start text := by
  rw [readTail]
  · intro rest equal
    exact (noMark 'e' (by rw [equal]; rfl)).1 rfl
  · intro rest equal
    exact (noMark 'E' (by rw [equal]; rfl)).2 rfl

/-- The tail of a number is read from its spelling. -/
theorem readTail_exponentText {positive : Bool} {significand : Nat} {start : Int}
    {exponent : Option Exponent} {number : Number}
    (value : tailNumber? positive significand start exponent = some number) {rest : List Char}
    (ends : EndsNumber rest) :
    readTail positive significand start (exponentText exponent ++ rest) = .ok (number, rest) := by
  apply ok_of_toOption
  cases exponent with
  | none =>
      rw [exponentText, List.nil_append, readTail_of_no_mark, finishFloat_toOption]
      · rw [← tailNumber?, value, Option.map_some]
      · exact fun character first => (ends character first).2.2
  | some exponent =>
      have read := readExponent_toOption positive significand start exponent ends.noDigit
      rw [value, Option.map_some] at read
      rw [← read, exponentText, Exponent.text, List.cons_append, List.append_assoc]
      cases exponent.capital <;> rfl

/-- What was read as the tail of a number is spelled where it stood. -/
theorem exponent_of_readTail {positive : Bool} {significand : Nat} {start : Int}
    {text rest : List Char} {number : Number}
    (read : readTail positive significand start text = .ok (number, rest)) :
    ∃ exponent, text = exponentText exponent ++ rest ∧
      tailNumber? positive significand start exponent = some number := by
  have marked (capital : Bool) (behind : List Char)
      (equal : text = (if capital then 'E' else 'e') :: behind)
      (reads : readExponent positive significand start behind = .ok (number, rest)) :
      ∃ exponent, text = exponentText exponent ++ rest ∧
        tailNumber? positive significand start exponent = some number := by
    obtain ⟨exponent, same, whole, _, value⟩ := exponent_of_readExponent capital reads
    refine ⟨some exponent, ?_, value⟩
    rw [equal, whole, exponentText, Exponent.text, same, List.cons_append, List.append_assoc]
  unfold readTail at read
  split at read
  case h_1 behind => exact marked false behind rfl read
  case h_2 behind => exact marked true behind rfl read
  case h_3 =>
    have reading := toOption_of_ok read
    rw [finishFloat_toOption] at reading
    obtain ⟨found, value, pair⟩ := Option.map_eq_some_iff.mp reading
    rw [Prod.mk.injEq] at pair
    refine ⟨none, ?_, by rw [tailNumber?, value, pair.1]⟩
    rw [exponentText, List.nil_append, pair.2]

/-- Behind the digits of a fraction the tail is read. -/
theorem readFraction_append (positive : Bool) (significand : Nat) (start : Int)
    {digits after : List Char} (filled : digits ≠ [])
    (decimal : ∀ digit ∈ digits, isDigit digit = true) (ends : NoDigit after) :
    readFraction positive significand start (digits ++ after) =
      readTail positive (takeDigits significand 0 digits).1
        (start - (takeDigits significand 0 digits).2.1) after := by
  obtain ⟨front, whole, count⟩ := takeDigits_split digits significand 0
  rw [readFraction, takeDigits_append decimal ends]
  cases left : (takeDigits significand 0 digits).2.2 with
  | nil =>
      have taken : (takeDigits significand 0 digits).2.1 ≠ 0 := by
        intro none
        rw [left, List.append_nil] at whole
        rw [none, Nat.zero_add] at count
        rw [whole] at filled
        exact filled (List.eq_nil_of_length_eq_zero count.symm)
      cases after with
      | nil =>
          simp only [List.nil_append, if_neg taken]
          rfl
      | cons character after =>
          simp only [List.nil_append, ends character rfl, Bool.false_eq_true, if_false,
            if_neg taken]
  | cons digit later =>
      have members : ∀ other ∈ digit :: later, isDigit other = true := by
        intro other member
        apply decimal
        rw [whole, left]
        exact List.mem_append_right _ member
      have behind := (takeWhile_digits_append
        (fun other member => members other (List.mem_cons_of_mem _ member)) ends).2
      simp only [List.cons_append, members digit List.mem_cons_self, if_true, behind]

/-- A point without digits behind it is refused. -/
theorem readFraction_of_noDigit (positive : Bool) (significand : Nat) (start : Int)
    {text : List Char} (ends : NoDigit text) (result : Number × List Char) :
    readFraction positive significand start text ≠ .ok result := by
  cases text with
  | nil => simp [readFraction, takeDigits]
  | cons character rest =>
      simp [readFraction, takeDigits, ends character rfl]

/-- A text is a run of digits with something else behind it. -/
theorem split_digits (text : List Char) :
    ∃ digits after, text = digits ++ after ∧ (∀ digit ∈ digits, isDigit digit = true) ∧
      NoDigit after :=
  ⟨text.takeWhile isDigit, text.dropWhile isDigit, List.takeWhile_append_dropWhile.symm,
    fun _ member => List.mem_takeWhile_imp member, noDigit_dropWhile text⟩

/-- Behind the digits that the significand has no room for, the mark of a fraction or of an
exponent decides. -/
theorem readAfterWhole_append (positive : Bool) (significand : Nat) {left : List Char}
    (decimal : ∀ digit ∈ left, isDigit digit = true) (after : List Char) : NoDigit after →
    readAfterWhole positive significand (left ++ after) =
      match after with
      | '.' :: rest => readFraction positive significand left.length rest
      | 'e' :: rest => readExponent positive significand left.length rest
      | 'E' :: rest => readExponent positive significand left.length rest
      | rest =>
          if left.length ≠ 0 then finishFloat positive significand left.length rest
          else .ok (wholeNumber positive significand, rest) := by
  intro ends
  obtain ⟨taken, dropped⟩ := takeWhile_digits_append decimal ends
  rw [readAfterWhole, taken, dropped]
  have whole (rest : List Char) :
      (if positive then (.ok (.whole significand, rest) : Reading Number)
        else if 0 < significand ∧ significand ≤ Nat.pow 2 63 then
          .ok (.whole (-significand), rest)
        else .ok (.floating (-Float.ofNat significand), rest)) =
      .ok (wholeNumber positive significand, rest) := by
    rw [wholeNumber]
    split
    · rfl
    · split <;> rfl
  split
  · rfl
  · rfl
  · rfl
  · simp only [whole]

/-- The digits in front of a number are taken as far as the significand has room. -/
theorem readNumber_append (positive : Bool) {whole after : List Char} (filled : whole ≠ [])
    (decimal : ∀ digit ∈ whole, isDigit digit = true)
    (noLeadingZero : whole.head? = some '0' → whole = ['0']) (ends : NoDigit after) :
    readNumber positive (whole ++ after) =
      readAfterWhole positive (takeDigits 0 0 whole).1 ((takeDigits 0 0 whole).2.2 ++ after) := by
  cases whole with
  | nil => exact absurd rfl filled
  | cons first others =>
      by_cases zero : first = '0'
      · have single := noLeadingZero (by rw [zero]; rfl)
        rw [single]
        cases after with
        | nil => rfl
        | cons character after =>
            change readNumber positive ('0' :: character :: after) = _
            rw [readNumber, if_neg (by simp [ends character rfl])]
            rfl
      · have isDecimal : isDigit first = true := decimal first List.mem_cons_self
        have small : 0 * 10 + digitValue first < significandLimit :=
          Nat.lt_trans (by simpa using digitValue_lt_ten isDecimal) (by decide)
        have taken : takeDigits 0 0 (first :: others) = takeDigits (digitValue first) 1 others := by
          rw [takeDigits, if_pos (by simpa [isDecimal] using small)]
          simp
        rw [taken, takeDigits_count others (digitValue first) 0 1, List.cons_append, readNumber,
          if_pos isDecimal, takeDigits_append
            (fun other member => decimal other (List.mem_cons_of_mem _ member)) ends]
        exact zero

/-- The digits that the significand has no room for are digits of the number. -/
theorem leftDigits (literal : Literal) :
    ∀ digit ∈ (takeDigits 0 0 literal.whole).2.2, isDigit digit = true := by
  intro digit member
  obtain ⟨front, whole, _⟩ := takeDigits_split literal.whole 0 0
  apply literal.wholeDecimal
  rw [whole]
  exact List.mem_append_right _ member

/-- The number of a spelling is whole when no digit is left over and nothing follows. -/
theorem number?_of_plain {literal : Literal} (noFraction : literal.fraction = [])
    (noExponent : literal.exponent = none) (noneLeft : (takeDigits 0 0 literal.whole).2.2 = []) :
    literal.number? = some (wholeNumber literal.positive (takeDigits 0 0 literal.whole).1) := by
  obtain ⟨room, value⟩ := takeDigits_left_eq_nil_iff literal.wholeDecimal 0 0 (by decide)
  have plain : literal.fraction = [] ∧ literal.exponent.isNone ∧
      ofDigits 10 literal.whole < significandLimit :=
    ⟨noFraction, by rw [noExponent]; rfl, room.mp noneLeft⟩
  rw [Literal.number?, if_pos plain, value noneLeft]
  rfl

theorem number?_of_not_plain {literal : Literal}
    (more : ¬ (literal.fraction = [] ∧ literal.exponent = none ∧
      (takeDigits 0 0 literal.whole).2.2 = [])) :
    literal.number? = literal.floating? := by
  obtain ⟨room, _⟩ := takeDigits_left_eq_nil_iff literal.wholeDecimal 0 0 (by decide)
  have notPlain : ¬ (literal.fraction = [] ∧ literal.exponent.isNone ∧
      ofDigits 10 literal.whole < significandLimit) := by
    intro given
    obtain ⟨noFraction, noExponent, small⟩ := given
    exact more ⟨noFraction, Option.isNone_iff_eq_none.mp noExponent, room.mpr small⟩
  rw [Literal.number?, if_neg notPlain]

theorem floating?_of_no_fraction {literal : Literal} (noFraction : literal.fraction = []) :
    literal.floating? = tailNumber? literal.positive (takeDigits 0 0 literal.whole).1
      (takeDigits 0 0 literal.whole).2.2.length literal.exponent := by
  rw [Literal.floating?, noFraction]
  simp [takeDigits]

theorem noDigit_exponentText (exponent : Option Exponent) {rest : List Char} (ends : NoDigit rest) :
    NoDigit (exponentText exponent ++ rest) := by
  cases exponent with
  | none => exact ends
  | some exponent =>
      intro character first
      rw [exponentText, Exponent.text, List.cons_append, List.head?_cons,
        Option.some.injEq] at first
      rw [← first]
      cases exponent.capital <;> decide

/-- A number without a fraction is read from its spelling. -/
theorem readAfterWhole_of_no_fraction {literal : Literal} {number : Number}
    (noFraction : literal.fraction = []) (value : literal.number? = some number)
    {rest : List Char} (ends : EndsNumber rest) :
    readAfterWhole literal.positive (takeDigits 0 0 literal.whole).1
        ((takeDigits 0 0 literal.whole).2.2 ++ (exponentText literal.exponent ++ rest)) =
      .ok (number, rest) := by
  rw [readAfterWhole_append _ _ (leftDigits literal) _ (noDigit_exponentText _ ends.noDigit)]
  cases marked : literal.exponent with
  | none =>
      rw [exponentText, List.nil_append]
      split
      case h_1 more => exact absurd rfl (ends '.' rfl).2.1
      case h_2 more => exact absurd rfl (ends 'e' rfl).2.2.1
      case h_3 more => exact absurd rfl (ends 'E' rfl).2.2.2
      case h_4 =>
        by_cases noneLeft : (takeDigits 0 0 literal.whole).2.2 = []
        · rw [number?_of_plain noFraction marked noneLeft, Option.some.injEq] at value
          rw [noneLeft, if_neg (by simp), value]
        · have more : ¬ (literal.fraction = [] ∧ literal.exponent = none ∧
              (takeDigits 0 0 literal.whole).2.2 = []) := fun plain => noneLeft plain.2.2
          rw [number?_of_not_plain more, floating?_of_no_fraction noFraction, marked,
            tailNumber?] at value
          apply ok_of_toOption
          rw [if_pos (by simpa using noneLeft), finishFloat_toOption, value]
          rfl
  | some exponent =>
      have more : ¬ (literal.fraction = [] ∧ literal.exponent = none ∧
          (takeDigits 0 0 literal.whole).2.2 = []) := by
        intro given
        obtain ⟨_, noExponent, _⟩ := given
        rw [marked] at noExponent
        exact absurd noExponent (by simp)
      rw [number?_of_not_plain more, floating?_of_no_fraction noFraction, marked] at value
      have read := readTail_exponentText value ends
      rw [exponentText, Exponent.text, List.cons_append] at read ⊢
      cases capital : exponent.capital <;> simpa [capital, readTail] using read

/-- A number is read from its spelling. -/
theorem readNumber_of_literal {literal : Literal} {number : Number}
    (value : literal.number? = some number) {rest : List Char} (ends : EndsNumber rest) :
    readNumber literal.positive (literal.body ++ rest) = .ok (number, rest) := by
  have tail := noDigit_exponentText literal.exponent ends.noDigit
  rw [Literal.body, List.append_assoc, List.append_assoc]
  by_cases noFraction : literal.fraction = []
  · rw [fractionText, if_pos noFraction, List.nil_append,
      readNumber_append _ literal.filled literal.wholeDecimal literal.noLeadingZero tail]
    exact readAfterWhole_of_no_fraction noFraction value ends
  · have more : ¬ (literal.fraction = [] ∧ literal.exponent = none ∧
        (takeDigits 0 0 literal.whole).2.2 = []) := fun plain => noFraction plain.1
    rw [number?_of_not_plain more] at value
    have point :
        NoDigit ('.' :: (literal.fraction ++ (exponentText literal.exponent ++ rest))) := by
      intro character first
      rw [← Option.some.inj first]
      decide
    rw [fractionText, if_neg noFraction, List.cons_append,
      readNumber_append _ literal.filled literal.wholeDecimal literal.noLeadingZero point,
      readAfterWhole_append _ _ (leftDigits literal) _ point]
    change readFraction _ _ _ _ = _
    rw [readFraction_append _ _ _ noFraction literal.fractionDecimal tail]
    exact readTail_exponentText value ends

/-- A number starts with a digit. -/
theorem ne_nil_of_readNumber {positive : Bool} {whole after rest : List Char} {number : Number}
    (ends : NoDigit after) (read : readNumber positive (whole ++ after) = .ok (number, rest)) :
    whole ≠ [] := by
  intro nothing
  rw [nothing, List.nil_append] at read
  cases after with
  | nil => exact absurd read (by simp [readNumber])
  | cons character after =>
      have other : isDigit character = false := ends character rfl
      have nonzero : character ≠ '0' := by
        intro zero
        rw [zero] at other
        exact absurd other (by decide)
      rw [readNumber, if_neg (by simp [other])] at read
      · exact absurd read (by simp)
      · exact nonzero

/-- No digit may follow a leading zero. -/
theorem noLeadingZero_of_readNumber {positive : Bool} {whole after rest : List Char}
    {number : Number} (decimal : ∀ digit ∈ whole, isDigit digit = true)
    (read : readNumber positive (whole ++ after) = .ok (number, rest))
    (zero : whole.head? = some '0') : whole = ['0'] := by
  cases whole with
  | nil => exact absurd zero (by simp)
  | cons first others =>
      rw [List.head?_cons, Option.some.injEq] at zero
      cases others with
      | nil => rw [zero]
      | cons second others =>
          have isDecimal : isDigit second = true := decimal second (by simp)
          rw [zero] at read
          change readNumber positive ('0' :: second :: (others ++ after)) = _ at read
          rw [readNumber, if_pos isDecimal] at read
          exact absurd read (by simp)

/-- What was read behind whole digits completes a spelling that begins with them. -/
theorem literal_of_readAfterWhole {base : Literal} (noFraction : base.fraction = [])
    (noExponent : base.exponent = none) {after rest : List Char} {number : Number}
    (ends : NoDigit after)
    (read : readAfterWhole base.positive (takeDigits 0 0 base.whole).1
      ((takeDigits 0 0 base.whole).2.2 ++ after) = .ok (number, rest)) :
    ∃ literal : Literal, literal.positive = base.positive ∧
      base.whole ++ after = literal.body ++ rest ∧ literal.number? = some number := by
  have marked (capital : Bool) {more : List Char}
      (equal : after = (if capital then 'E' else 'e') :: more)
      (found : readExponent base.positive (takeDigits 0 0 base.whole).1
        (takeDigits 0 0 base.whole).2.2.length more = .ok (number, rest)) :
      ∃ literal : Literal, literal.positive = base.positive ∧
        base.whole ++ after = literal.body ++ rest ∧ literal.number? = some number := by
    obtain ⟨exponent, isCapital, equalMore, _, value⟩ := exponent_of_readExponent capital found
    let literal : Literal := { base with exponent := some exponent }
    have isWhole : literal.fraction = [] := noFraction
    refine ⟨literal, rfl, ?_, ?_⟩
    · simp [literal, equal, equalMore, Literal.body, noFraction, fractionText, exponentText,
        Exponent.text, isCapital]
    · rw [number?_of_not_plain fun plain => absurd plain.2.1 (by simp [literal]),
        floating?_of_no_fraction isWhole]
      exact value
  rw [readAfterWhole_append _ _ (leftDigits base) after ends] at read
  split at read
  case h_1 more =>
    obtain ⟨fraction, behind, equalMore, decimal, endsMore⟩ := split_digits more
    by_cases nothing : fraction = []
    · rw [equalMore, nothing, List.nil_append] at read
      exact absurd read (readFraction_of_noDigit _ _ _ endsMore _)
    · rw [equalMore, readFraction_append _ _ _ nothing decimal endsMore] at read
      obtain ⟨exponent, equalBehind, value⟩ := exponent_of_readTail read
      refine ⟨{ base with fraction, exponent, fractionDecimal := decimal }, rfl, ?_, ?_⟩
      · simp [equalMore, equalBehind, Literal.body, fractionText, nothing]
      · rw [number?_of_not_plain fun plain => nothing plain.1]
        exact value
  case h_2 more => exact marked false rfl read
  case h_3 more => exact marked true rfl read
  case h_4 =>
    have body : base.body = base.whole := by
      rw [Literal.body, noFraction, noExponent, fractionText, if_pos rfl, exponentText,
        List.append_nil, List.append_nil]
    by_cases noneLeft : (takeDigits 0 0 base.whole).2.2 = []
    · rw [noneLeft, if_neg (by simp), Except.ok.injEq, Prod.mk.injEq] at read
      refine ⟨base, rfl, by rw [body, read.2], ?_⟩
      rw [number?_of_plain noFraction noExponent noneLeft, ← read.1]
    · rw [if_pos (by simpa using noneLeft)] at read
      have reading := toOption_of_ok read
      rw [finishFloat_toOption] at reading
      obtain ⟨found, value, pair⟩ := Option.map_eq_some_iff.mp reading
      rw [Prod.mk.injEq] at pair
      refine ⟨base, rfl, by rw [body, pair.2], ?_⟩
      rw [number?_of_not_plain fun plain => noneLeft plain.2.2,
        floating?_of_no_fraction noFraction, noExponent, ← pair.1]
      exact value

/-- A number that was read is spelled where it stood. -/
theorem literal_of_readNumber {positive : Bool} {text rest : List Char} {number : Number}
    (read : readNumber positive text = .ok (number, rest)) :
    ∃ literal : Literal, literal.positive = positive ∧ text = literal.body ++ rest ∧
      literal.number? = some number := by
  obtain ⟨whole, after, equal, decimal, ends⟩ := split_digits text
  rw [equal] at read ⊢
  have filled := ne_nil_of_readNumber ends read
  have noLeadingZero := noLeadingZero_of_readNumber decimal read
  let base : Literal :=
    ⟨positive, whole, [], none, filled, decimal, noLeadingZero,
      fun _ member => absurd member List.not_mem_nil⟩
  rw [readNumber_append positive filled decimal noLeadingZero ends] at read
  have behind : readAfterWhole base.positive (takeDigits 0 0 base.whole).1
      ((takeDigits 0 0 base.whole).2.2 ++ after) = .ok (number, rest) := read
  exact literal_of_readAfterWhole rfl rfl ends behind

end SheetLint.Json
