/-
This file says which files a selector is for, told from the texts of their paths: the scopes of a
file hang on the extension of the last name only, whatever the case of its letters.
-/

import SheetLint.Proofs.Path.LastName
import SheetLint.Proofs.Selector.FixedForm
import SheetLint.Selector.Scopes

namespace SheetLint

theorem toNat_toLower (character : Char) :
    character.toLower.toNat =
      if 'A' ≤ character ∧ character ≤ 'Z' then character.toNat + 32 else character.toNat := by
  by_cases upper : 'A' ≤ character ∧ character ≤ 'Z'
  · have small : character.val.toNat + 32 < 2 ^ 32 := by
      have bound : character.val.toNat ≤ 90 := upper.2
      omega
    have lowered : character.toLower.toNat = (character.val + 32).toNat :=
      congrArg Char.toNat (dif_pos upper)
    rw [if_pos upper, lowered, UInt32.toNat_add]
    exact Nat.mod_eq_of_lt small
  · have kept : character.toLower = character := dif_neg upper
    rw [if_neg upper, kept]

theorem lowerAscii_eq_toLower : lowerAscii = Char.toLower := by
  funext character
  rw [← Char.ofNat_toNat character.toLower, toNat_toLower, lowerAscii]
  split
  · rfl
  · rw [Char.ofNat_toNat]

/-- The texts differ at most in the case of their letters, of which only those of ASCII count. -/
def SameButCase (text other : List Char) : Prop :=
  text.map Char.toLower = other.map Char.toLower

/-- Signs that come before the letters have no case. -/
theorem SameButCase.mem_of_mem {text other : List Char} (same : SameButCase text other)
    {sign : Char} (low : sign.toNat < 65) (member : sign ∈ text) : sign ∈ other := by
  have lowered : sign.toLower ∈ other.map Char.toLower := same ▸ List.mem_map_of_mem member
  obtain ⟨character, inside, equal⟩ := List.mem_map.mp lowered
  have noCapital : ¬ ('A' ≤ sign ∧ sign ≤ 'Z') := fun capital => absurd capital.1 low.not_ge
  have codes := congrArg Char.toNat equal
  rw [toNat_toLower, toNat_toLower, if_neg noCapital] at codes
  -- the small form of a capital comes behind all capitals
  have noOther : ¬ ('A' ≤ character ∧ character ≤ 'Z') := by
    intro capital
    have bound : 65 ≤ character.toNat := capital.1
    rw [if_pos capital] at codes
    omega
  rw [if_neg noOther] at codes
  rwa [← Char.toNat_inj.mp codes]

/-- These are the extensions of style sheets and of pages with style sheets inside. -/
def styleExtensions : List String :=
  ["css", "scss", "sass", "less", "sss", "html", "htm", "vue", "svelte"]

/-- The extension is one of style sheets or pages, in letters of any case. -/
def StyleExtension (extension : List Char) : Prop :=
  ∃ known ∈ styleExtensions, SameButCase extension known.toList

theorem scopesOfExtension_ne_nil_iff (extension : List Char) :
    scopesOfExtension extension ≠ [] ↔ String.ofList extension ∈ styleExtensions := by
  simp only [scopesOfExtension, styleExtensions, List.mem_cons, List.not_mem_nil, or_false]
  split_ifs <;> simp_all

theorem scopesOfExtension_lowered_ne_nil_iff (extension : List Char) :
    scopesOfExtension (extension.map Char.toLower) ≠ [] ↔ StyleExtension extension := by
  have lowered : ∀ known ∈ styleExtensions, known.toList.map Char.toLower = known.toList := by
    decide
  rw [scopesOfExtension_ne_nil_iff, StyleExtension]
  constructor
  · intro member
    refine ⟨_, member, ?_⟩
    rw [SameButCase, lowered _ member, String.toList_ofList]
  · rintro ⟨known, member, same⟩
    rwa [same, lowered known member, String.ofList_toList]

namespace Path

/-- The path ends in a name with a stem and, behind the last dot, this extension. -/
structure Extended (path : Path) (front stem extension rest : List Char) : Prop where
  ends : path.EndsIn front (stem ++ '.' :: extension) rest
  stemmed : stem ≠ []
  dotFree : '.' ∉ extension

variable {path : Path} {front stem extension rest : List Char}

/-- The name of two dots has a stem and an empty extension, but it is no name of a file. -/
theorem Extended.extension? (extended : path.Extended front stem extension rest) :
    path.extension?.getD [] = extension := by
  obtain ⟨ends, stemmed, dotFree⟩ := extended
  rw [Path.extension?, ends.fileName?]
  by_cases up : stem ++ '.' :: extension = ['.', '.']
  · rw [if_pos up]
    obtain ⟨first, stem, rfl⟩ := List.exists_cons_of_ne_nil stemmed
    have lengths := congrArg List.length up
    simp only [List.cons_append, List.length_cons, List.length_append, List.length_nil] at lengths
    have nothing : extension = [] := List.eq_nil_of_length_eq_zero (by omega)
    rw [nothing]
    rfl
  · rw [if_neg up, Option.bind_some, extensionOf?_append_dot stem dotFree, if_neg stemmed]
    rfl

theorem Extended.scopes (extended : path.Extended front stem extension rest) :
    path.scopes = scopesOfExtension (extension.map Char.toLower) := by
  rw [Path.scopes, extended.extension?, lowerAscii_eq_toLower]

theorem exists_extended_of_extension? (read : path.extension? = some extension) :
    ∃ front stem rest, path.Extended front stem extension rest := by
  rw [Path.extension?, Option.bind_eq_some_iff] at read
  obtain ⟨name, named, read⟩ := read
  obtain ⟨-, front, rest, ends⟩ := (fileName?_eq_some_iff path name).mp named
  obtain ⟨stem, rfl, stemmed, dotFree⟩ := (extensionOf?_eq_some_iff name extension).mp read
  exact ⟨front, stem, rest, ends, stemmed, dotFree⟩

theorem scopes_ne_nil_iff (path : Path) :
    path.scopes ≠ [] ↔ ∃ front stem extension rest,
      path.Extended front stem extension rest ∧ StyleExtension extension := by
  constructor
  · intro some
    cases read : path.extension? with
    | none =>
        rw [Path.scopes, read] at some
        exact absurd rfl some
    | some extension =>
        obtain ⟨front, stem, rest, extended⟩ := exists_extended_of_extension? read
        rw [extended.scopes, scopesOfExtension_lowered_ne_nil_iff] at some
        exact ⟨front, stem, extension, rest, extended, some⟩
  · rintro ⟨front, stem, extension, rest, extended, known⟩
    rwa [extended.scopes, scopesOfExtension_lowered_ne_nil_iff]

/-- Another stem and letters of another case make a name of the same form. -/
theorem Extended.rename (extended : path.Extended front stem extension rest)
    {other recased : List Char} (filled : other ≠ []) (plain : '/' ∉ other)
    (same : SameButCase recased extension) :
    Extended ⟨front ++ (other ++ '.' :: recased) ++ rest⟩ front other recased rest where
  ends := by
    have slashFree : '/' ∉ stem ++ '.' :: extension := extended.ends.run.plain
    apply extended.ends.rename
    · simp only [List.mem_append, List.mem_cons, not_or] at slashFree ⊢
      exact ⟨plain, by decide, fun slash => slashFree.2.2 (same.mem_of_mem (by decide) slash)⟩
    · simp
    · intro dot
      have lengths := congrArg List.length dot
      simp only [List.length_append, List.length_cons, List.length_nil] at lengths
      exact filled (List.eq_nil_of_length_eq_zero (by omega))
  stemmed := filled
  dotFree := fun dot => extended.dotFree (same.mem_of_mem (by decide) dot)

end Path

namespace Selector

/-- A selector that is read from a text is for no document without scopes. -/
theorem accepts_parse_nil (text : String) : (parse text).accepts [] = false := by
  rw [Selector.accepts, List.any_eq_false]
  intro alternative member accepted
  obtain ⟨name, inside⟩ :=
    List.exists_mem_of_ne_nil _ (wellFormed_parse text alternative member).included
  obtain ⟨scope, nowhere, -⟩ := ((alternative.accepts_iff []).mp accepted).1 name inside
  exact absurd nowhere List.not_mem_nil

theorem appliesTo_of_fileName? (selector : Selector) {path other : Path}
    (named : path.fileName? = other.fileName?) :
    selector.appliesTo path = selector.appliesTo other := by
  rw [appliesTo, appliesTo, Path.scopes, Path.scopes, Path.extension?, Path.extension?, named]

/-- A file has scopes when its path ends in a name with a stem and with one of the known extensions
in letters of any case, and these are the scopes of the extension in lower case. So whether a
selector is for a file changes neither with the directories in front of its last name nor with the
stem nor with the case of the extension, and it is for no other files. -/
theorem appliesTo_by_last_name :
    (∀ path : Path, path.scopes ≠ [] ↔ ∃ front stem extension rest,
      path.Extended front stem extension rest ∧ StyleExtension extension) ∧
    (∀ (path : Path) (front stem extension rest : List Char),
      path.Extended front stem extension rest →
        path.scopes = scopesOfExtension (extension.map Char.toLower)) ∧
    (∀ (selector : Selector) (path : Path) (front name rest : List Char),
      path.EndsIn front name rest → ∀ directories : List Char,
        selector.appliesTo ⟨directories ++ '/' :: path.characters⟩ = selector.appliesTo path) ∧
    (∀ (selector : Selector) (path : Path) (front stem extension rest : List Char),
      path.Extended front stem extension rest → ∀ other recased : List Char,
        other ≠ [] → '/' ∉ other → SameButCase recased extension →
          selector.appliesTo ⟨front ++ (other ++ '.' :: recased) ++ rest⟩ =
            selector.appliesTo path) ∧
    ∀ (text : String) (path : Path),
      (∀ front stem extension rest, path.Extended front stem extension rest →
        ¬ StyleExtension extension) → (parse text).appliesTo path = false := by
  refine ⟨Path.scopes_ne_nil_iff, fun _ _ _ _ _ => Path.Extended.scopes, ?_, ?_, ?_⟩
  · intro selector path front name rest ends directories
    apply appliesTo_of_fileName?
    rw [(ends.behind directories).fileName?, ends.fileName?]
  · intro selector path front stem extension rest extended other recased filled plain same
    rw [appliesTo, appliesTo, (extended.rename filled plain same).scopes, extended.scopes, same]
  · intro text path unknown
    have nothing : path.scopes = [] := by
      by_contra some
      obtain ⟨front, stem, extension, rest, extended, known⟩ := path.scopes_ne_nil_iff.mp some
      exact unknown front stem extension rest extended known
    rw [appliesTo, nothing, accepts_parse_nil]

/-- The stem of a page is a dot, and what follows its name means nothing. The page is taken with
directories in front of it and under another name, but not without a stem. -/
theorem appliesTo_of_renamed_page :
    let page := Path.ofString "src/..Vue//."
    let selector := parse "text.html source - meta"
    page.Extended "src/".toList ['.'] "Vue".toList "//.".toList ∧
      page.scopes = ["text.html.basic", "source.css.embedded.html"].map String.toList ∧
      selector.appliesTo (Path.ofString "/work/src/..Vue//.") = true ∧
      selector.appliesTo (Path.ofString "src/a.b.vUE//.") = true ∧
      selector.appliesTo (Path.ofString "src/.vue") = false := by
  intro page selector
  obtain ⟨filled, lowered, prepended, renamed, unknown⟩ := appliesTo_by_last_name
  have extended : page.Extended "src/".toList ['.'] "Vue".toList "//.".toList :=
    ⟨⟨⟨rfl, by decide, Or.inr ⟨"src".toList, rfl⟩, Or.inr ⟨"/.".toList, rfl⟩⟩,
      by decide, by decide, .slash (.dot .nil)⟩, by decide, by decide⟩
  have taken : selector.appliesTo page = true := by decide
  refine ⟨extended, lowered _ _ _ _ _ extended, ?_, ?_, ?_⟩
  · exact (prepended selector page _ _ _ extended.ends "/work".toList).trans taken
  · have recased : SameButCase "vUE".toList "Vue".toList := by
      rw [SameButCase]
      decide
    exact (renamed selector page _ _ _ _ extended "a.b".toList "vUE".toList (by decide)
      (by decide) recased).trans taken
  · apply unknown
    intro front stem extension rest stemless known
    have some := (filled _).mpr ⟨front, stem, extension, rest, stemless, known⟩
    exact some (by decide)

end Selector

end SheetLint
