/-
This file shows that a string is read exactly from its spellings.
-/

import SheetLint.Proofs.Json.Grammar

namespace SheetLint.Json

open SheetLint.Text

theorem hexValue?_of_isHexDigit {digit : Char} (hexadecimal : isHexDigit digit = true) :
    hexValue? digit = some (digitValue digit) := by
  rw [hexValue?, if_pos hexadecimal]

theorem isHexDigit_of_hexValue? {digit : Char} {value : Nat}
    (found : hexValue? digit = some value) :
    isHexDigit digit = true ∧ digitValue digit = value := by
  rw [hexValue?] at found
  split at found
  · next hexadecimal => exact ⟨hexadecimal, Option.some.inj found⟩
  · exact absurd found (by simp)

theorem digitValue_lt_sixteen {digit : Char} (hexadecimal : isHexDigit digit = true) :
    digitValue digit < 16 := by
  by_cases decimal : isDigit digit = true
  · exact Nat.lt_trans (digitValue_lt_ten decimal) (by decide)
  · simp only [isHexDigit, decimal, Bool.false_or, Bool.or_eq_true, Bool.and_eq_true,
      decide_eq_true_eq] at hexadecimal
    rw [digitValue, if_neg decimal]
    rcases hexadecimal with ⟨lower, upper⟩ | ⟨lower, upper⟩
    · have bound : digit.toNat ≤ 102 := upper
      rw [if_pos lower]
      omega
    · have bound : digit.toNat ≤ 70 := upper
      have capital : ¬ 'a' ≤ digit := by
        intro small
        have above : 97 ≤ digit.toNat := small
        omega
      rw [if_neg capital]
      omega

/-- A unit is read from its four digits. -/
theorem readUnit_append {unit : Nat} {digits : List Char} (spelled : SpellsUnit unit digits)
    (rest : List Char) : readUnit (digits ++ rest) = .ok (unit, rest) := by
  obtain ⟨four, hexadecimal, value⟩ := spelled
  match digits, four with
  | [first, second, third, fourth], _ =>
      have found (digit : Char) (member : digit ∈ [first, second, third, fourth]) :=
        hexValue?_of_isHexDigit (hexadecimal digit member)
      have equal : digitValue first * 4096 + digitValue second * 256 + digitValue third * 16 +
          digitValue fourth = unit := by
        rw [← value]
        simp only [ofDigits, List.foldl_cons, List.foldl_nil]
        omega
      simp only [List.cons_append, List.nil_append, readUnit, found first (by simp),
        found second (by simp), found third (by simp), found fourth (by simp), equal]

/-- Four digits stand where a unit was read. -/
theorem spellsUnit_of_readUnit {text rest : List Char} {unit : Nat}
    (read : readUnit text = .ok (unit, rest)) :
    ∃ digits, SpellsUnit unit digits ∧ text = digits ++ rest := by
  unfold readUnit at read
  extract_lets failure at read
  have refused : failure ≠ .ok (unit, rest) := by
    simp only [failure]
    split <;> simp
  split at read
  case h_1 first second third fourth left =>
    split at read
    case h_1 a b c d foundFirst foundSecond foundThird foundFourth =>
      obtain ⟨isFirst, valueFirst⟩ := isHexDigit_of_hexValue? foundFirst
      obtain ⟨isSecond, valueSecond⟩ := isHexDigit_of_hexValue? foundSecond
      obtain ⟨isThird, valueThird⟩ := isHexDigit_of_hexValue? foundThird
      obtain ⟨isFourth, valueFourth⟩ := isHexDigit_of_hexValue? foundFourth
      simp only [Except.ok.injEq, Prod.mk.injEq] at read
      refine ⟨[first, second, third, fourth], ⟨rfl, ?_, ?_⟩, ?_⟩
      · simp [isFirst, isSecond, isThird, isFourth]
      · rw [← read.1]
        simp only [ofDigits, List.foldl_cons, List.foldl_nil, valueFirst, valueSecond, valueThird,
          valueFourth]
        omega
      · rw [← read.2]
        rfl
    case h_2 => exact absurd read refused
  case h_2 => exact absurd read refused

/-- A unit has 16 bits. -/
theorem SpellsUnit.lt {unit : Nat} {digits : List Char} (spelled : SpellsUnit unit digits) :
    unit < 0x10000 := by
  obtain ⟨four, hexadecimal, value⟩ := spelled
  match digits, four with
  | [first, second, third, fourth], _ =>
      have bound (digit : Char) (member : digit ∈ [first, second, third, fourth]) :=
        digitValue_lt_sixteen (hexadecimal digit member)
      have boundFirst := bound first (by simp)
      have boundSecond := bound second (by simp)
      have boundThird := bound third (by simp)
      have boundFourth := bound fourth (by simp)
      simp only [ofDigits, List.foldl_cons, List.foldl_nil] at value
      omega

/-- A letter behind a backslash is read as the character it stands for. -/
theorem readEscape_letter {letter character : Char} (known : (letter, character) ∈ escapeLetters)
    (rest : List Char) : readEscape (letter :: rest) = .ok (character, rest) := by
  simp only [escapeLetters, List.mem_cons, Prod.mk.injEq, List.not_mem_nil, or_false] at known
  rcases known with equal | equal | equal | equal | equal | equal | equal | equal <;>
    rw [equal.1, equal.2] <;> rfl

/-- No character has the code of a surrogate. -/
theorem not_surrogate (character : Char) :
    isTrailing character.toNat = false ∧ isLeading character.toNat = false := by
  have valid : character.toNat < 0xD800 ∨ 0xDFFF < character.toNat ∧ character.toNat < 0x110000 :=
    character.valid
  constructor <;>
    simp only [isTrailing, isLeading, Bool.and_eq_false_iff, decide_eq_false_iff_not] <;>
    omega

theorem readEscape_unit {character : Char} {digits : List Char}
    (spelled : SpellsUnit character.toNat digits) (rest : List Char) :
    readEscape ('u' :: (digits ++ rest)) = .ok (character, rest) := by
  obtain ⟨noTrailing, noLeading⟩ := not_surrogate character
  rw [readEscape, readUnit_append spelled]
  simp only [noTrailing, noLeading, Bool.false_eq_true, ↓reduceIte, Char.ofNat_toNat]

theorem readEscape_pair {character : Char} {leading trailing : Nat} {first second : List Char}
    (spelledFirst : SpellsUnit leading first) (spelledSecond : SpellsUnit trailing second)
    (isFirst : isLeading leading = true) (isSecond : isTrailing trailing = true)
    (value : character.toNat = 0x10000 + (leading - 0xD800) * 1024 + (trailing - 0xDC00))
    (rest : List Char) :
    readEscape ('u' :: (first ++ ('\\' :: 'u' :: (second ++ rest)))) = .ok (character, rest) := by
  have noTrailing : isTrailing leading = false := by
    simp only [isLeading, isTrailing, Bool.and_eq_true, Bool.and_eq_false_iff, decide_eq_true_eq,
      decide_eq_false_iff_not] at isFirst ⊢
    omega
  rw [readEscape, readUnit_append spelledFirst]
  simp only [noTrailing, isFirst, Bool.false_eq_true, ↓reduceIte]
  rw [readSecondUnit, readUnit_append spelledSecond]
  simp only [isSecond, ↓reduceIte, ← value, Char.ofNat_toNat]

/-- The code of a character that is made from a valid number is this number. -/
theorem toNat_ofNat_of_valid {code : Nat} (valid : code.isValidChar) :
    (Char.ofNat code).toNat = code := by
  rw [Char.ofNat, dif_pos valid]
  rfl

/-- Two surrogates stand for a character beyond the first 65536. -/
theorem toNat_ofNat_pair {leading trailing : Nat} (isFirst : isLeading leading = true)
    (isSecond : isTrailing trailing = true) :
    (Char.ofNat (0x10000 + (leading - 0xD800) * 1024 + (trailing - 0xDC00))).toNat =
      0x10000 + (leading - 0xD800) * 1024 + (trailing - 0xDC00) := by
  simp only [isLeading, isTrailing, Bool.and_eq_true, decide_eq_true_eq] at isFirst isSecond
  apply toNat_ofNat_of_valid
  right
  constructor <;> omega

/-- A unit that is no surrogate stands for a character of its own. -/
theorem toNat_ofNat_single {unit : Nat} (small : unit < 65536)
    (noTrailing : ¬ isTrailing unit = true) (noLeading : ¬ isLeading unit = true) :
    (Char.ofNat unit).toNat = unit := by
  simp only [isTrailing, isLeading, Bool.and_eq_true, decide_eq_true_eq] at noTrailing noLeading
  apply toNat_ofNat_of_valid
  rcases Nat.lt_or_ge unit 0xD800 with low | high
  · exact Or.inl low
  · right
    constructor <;> omega

/-- The second half of a pair is spelled behind another backslash. -/
theorem spellsUnit_of_readSecondUnit {leading : Nat} {text rest : List Char} {character : Char}
    (read : readSecondUnit leading text = .ok (character, rest)) :
    ∃ trailing digits, SpellsUnit trailing digits ∧ isTrailing trailing = true ∧
      text = '\\' :: 'u' :: (digits ++ rest) ∧
      character = Char.ofNat (0x10000 + (leading - 0xD800) * 1024 + (trailing - 0xDC00)) := by
  unfold readSecondUnit at read
  split at read
  case h_3 behind =>
    split at read
    case h_1 => exact absurd read (by simp)
    case h_2 trailing left unit =>
      split at read
      case isTrue isSecond =>
        obtain ⟨digits, spelled, equal⟩ := spellsUnit_of_readUnit unit
        simp only [Except.ok.injEq, Prod.mk.injEq] at read
        refine ⟨trailing, digits, spelled, isSecond, ?_, read.1.symm⟩
        rw [equal, read.2]
      case isFalse => exact absurd read (by simp)
  all_goals exact absurd read (by simp)

/-- What is read behind a backslash is a spelling of the character. -/
theorem spellsCharacter_of_readEscape {text rest : List Char} {character : Char}
    (read : readEscape text = .ok (character, rest)) :
    ∃ form, SpellsCharacter character ('\\' :: form) ∧ text = form ++ rest := by
  unfold readEscape at read
  split at read
  case h_10 behind =>
    split at read
    case h_1 => exact absurd read (by simp)
    case h_2 unit left found =>
      obtain ⟨digits, spelled, equal⟩ := spellsUnit_of_readUnit found
      have small := spelled.lt
      split at read
      case isTrue => exact absurd read (by simp)
      case isFalse noTrailing =>
        split at read
        case isTrue isFirst =>
          obtain ⟨trailing, second, spelledSecond, isSecond, next, value⟩ :=
            spellsUnit_of_readSecondUnit read
          have code : character.toNat =
              0x10000 + (unit - 0xD800) * 1024 + (trailing - 0xDC00) := by
            rw [value]
            exact toNat_ofNat_pair isFirst isSecond
          refine ⟨_, .pair spelled spelledSecond isFirst isSecond code, ?_⟩
          rw [equal, next]
          simp
        case isFalse noLeading =>
          simp only [Except.ok.injEq, Prod.mk.injEq] at read
          have code : character.toNat = unit := by
            rw [← read.1]
            exact toNat_ofNat_single small noTrailing noLeading
          rw [← code] at spelled
          refine ⟨_, .unit spelled, ?_⟩
          rw [equal, read.2]
          rfl
  case h_1 => exact absurd read (by simp)
  case h_11 => exact absurd read (by simp)
  all_goals
    simp only [Except.ok.injEq, Prod.mk.injEq] at read
    rw [← read.1, read.2]
    exact ⟨_, .letter (by simp [escapeLetters]), rfl⟩

theorem readCharacters_escape {text left : List Char} {character : Char}
    (read : readEscape text = .ok (character, left)) (decoded : List Char) :
    readCharacters decoded ('\\' :: text) = readCharacters (character :: decoded) left := by
  rw [readCharacters]
  split
  next fault found =>
    rw [read] at found
    exact absurd found (by simp)
  next other rest found =>
    rw [read, Except.ok.injEq, Prod.mk.injEq] at found
    rw [found.1, found.2]

theorem readCharacters_plain {character : Char} (noQuote : character ≠ '"')
    (noBackslash : character ≠ '\\') (visible : 0x20 ≤ character.toNat)
    (decoded rest : List Char) :
    readCharacters decoded (character :: rest) = readCharacters (character :: decoded) rest := by
  rw [readCharacters, if_neg (Nat.not_lt.mpr visible)]
  · exact noQuote
  · exact noBackslash

/-- One spelled character is read before the others. -/
theorem readCharacters_append {character : Char} {form : List Char}
    (spelled : SpellsCharacter character form) (decoded rest : List Char) :
    readCharacters decoded (form ++ rest) = readCharacters (character :: decoded) rest := by
  cases spelled with
  | plain noQuote noBackslash visible =>
      exact readCharacters_plain noQuote noBackslash visible decoded rest
  | letter known => exact readCharacters_escape (readEscape_letter known rest) decoded
  | unit spelled => exact readCharacters_escape (readEscape_unit spelled rest) decoded
  | pair spelledFirst spelledSecond isFirst isSecond value =>
      have read := readEscape_pair spelledFirst spelledSecond isFirst isSecond value rest
      rw [← readCharacters_escape read decoded]
      simp

/-- All characters are read up to the closing quote. -/
theorem readCharacters_flatten {characters : List Char} {forms : List (List Char)}
    (spelled : List.Forall₂ SpellsCharacter characters forms) (decoded rest : List Char) :
    readCharacters decoded (forms.flatten ++ '"' :: rest) =
      .ok (String.ofList (decoded.reverse ++ characters), rest) := by
  induction spelled generalizing decoded with
  | nil => simp [readCharacters]
  | cons first others inductionHypothesis =>
      rw [List.flatten_cons, List.append_assoc, readCharacters_append first, inductionHypothesis]
      simp

/-- What is read up to the closing quote is spelled character by character. -/
theorem spells_of_readCharacters {decoded text rest : List Char} {value : String}
    (read : readCharacters decoded text = .ok (value, rest)) :
    ∃ characters forms, List.Forall₂ SpellsCharacter characters forms ∧
      text = forms.flatten ++ '"' :: rest ∧
      value = String.ofList (decoded.reverse ++ characters) := by
  fun_induction readCharacters decoded text with
  | case1 decoded => exact absurd read (by simp)
  | case2 decoded left =>
      rw [Except.ok.injEq, Prod.mk.injEq] at read
      exact ⟨[], [], .nil, by simp [read.2], by simp [← read.1]⟩
  | case3 decoded left fault found => exact absurd read (by simp)
  | case4 decoded left character behind found inductionHypothesis =>
      obtain ⟨form, spelled, equal⟩ := spellsCharacter_of_readEscape found
      obtain ⟨characters, forms, others, text, value⟩ := inductionHypothesis read
      refine ⟨character :: characters, ('\\' :: form) :: forms, .cons spelled others, ?_, ?_⟩
      · rw [equal, text]
        simp
      · rw [value]
        simp
  | case5 decoded character left noQuote noBackslash control => exact absurd read (by simp)
  | case6 decoded character left noQuote noBackslash visible inductionHypothesis =>
      obtain ⟨characters, forms, others, text, value⟩ := inductionHypothesis read
      have plain : SpellsCharacter character [character] :=
        .plain noQuote noBackslash (Nat.not_lt.mp visible)
      refine ⟨character :: characters, [character] :: forms, .cons plain others, ?_, ?_⟩
      · rw [text]
        simp
      · rw [value]
        simp

/-- A string is read from its spelling. -/
theorem readString_of_spells {value : String} {token : List Char}
    (spelled : SpellsString value token) (rest : List Char) :
    ∃ body, token = '"' :: body ∧ readString (body ++ rest) = .ok (value, rest) := by
  obtain ⟨forms, characters, equal⟩ := spelled
  refine ⟨forms.flatten ++ ['"'], equal, ?_⟩
  have read := readCharacters_flatten characters [] rest
  simpa [readString] using read

/-- A string that was read is spelled where it stood. -/
theorem spells_of_readString {text rest : List Char} {value : String}
    (read : readString text = .ok (value, rest)) :
    ∃ token, SpellsString value token ∧ '"' :: text = token ++ rest := by
  obtain ⟨characters, forms, spelled, equal, whole⟩ := spells_of_readCharacters read
  refine ⟨'"' :: (forms.flatten ++ ['"']), ⟨forms, ?_, rfl⟩, ?_⟩
  · simpa [whole] using spelled
  · simp [equal]

end SheetLint.Json
