/-
This file shows what a name that is put behind a path leads to: an entry of the directory that the
path leads to.
-/

import SheetLint.Proofs.FileTree.Climbing

namespace SheetLint

/-- A text is fit to be the name of an entry. -/
structure EntryName (name : List Char) : Prop where
  slashFree : '/' ∉ name
  zeroFree : '\u0000' ∉ name
  notTrivial : Path.isTrivial name = false
  notParent : name ≠ ['.', '.']
  short : Text.byteCount name ≤ FileTree.nameLimit

namespace Path

theorem byteCount_join_le (base : Path) {path : Path} (relative : path.isAbsolute = false) :
    Text.byteCount (base.join path).characters ≤
      Text.byteCount base.characters + 1 + Text.byteCount path.characters := by
  rw [join_of_relative relative]
  split
  · rw [Text.byteCount_append]
    omega
  · have slash : '/'.utf8Size = 1 := by decide
    rw [Text.byteCount_append, Text.byteCount_cons, slash]
    omega

theorem zero_not_mem_join {base path : Path} (relative : path.isAbsolute = false)
    (before : '\u0000' ∉ base.characters) (behind : '\u0000' ∉ path.characters) :
    '\u0000' ∉ (base.join path).characters := by
  have slash : '\u0000' ≠ '/' := by decide
  rw [join_of_relative relative]
  split <;> simp [before, behind, slash]

/-- There is room behind a path for so many bytes. -/
structure HasRoom (path : Path) (bytes : Nat) : Prop where
  zeroFree : '\u0000' ∉ path.characters
  short : Text.byteCount path.characters + bytes < FileTree.pathLimit

theorem HasRoom.begins {path whole : Path} {bytes : Nat} (room : whole.HasRoom bytes)
    (begins : path.Begins whole) : path.HasRoom bytes := by
  have less := Text.byteCount_le_of_prefix begins.text
  have short := room.short
  exact ⟨fun member => room.zeroFree (begins.text.subset member), by omega⟩

/-- A name takes up its own bytes and one for the slash before it. -/
theorem HasRoom.join {base : Path} {bytes : Nat} {name : List Char} (fits : EntryName name)
    (room : base.HasRoom (bytes + Text.byteCount name + 1)) :
    (base.join ⟨name⟩).HasRoom bytes := by
  have relative := isAbsolute_of_name fits.slashFree
  have less := byteCount_join_le base relative
  have short := room.short
  exact ⟨zero_not_mem_join relative room.zeroFree fits.zeroFree, by dsimp only at less; omega⟩

/-- A path that ends in a name is one that the system takes, if there is room for it. -/
theorem HasRoom.admitted {base : Path} {name : List Char} (fits : EntryName name)
    (room : base.HasRoom (Text.byteCount name + 1)) : (base.join ⟨name⟩).Admitted := by
  have fit : (base.join ⟨name⟩).HasRoom 0 := HasRoom.join fits (by rwa [Nat.zero_add])
  refine ⟨?_, fit.zeroFree, fit.short⟩
  intro nothing
  have last := getLast?_segments_join base fits.slashFree
  have named := fits.notTrivial
  rw [getLast?_segments, nothing] at last
  rw [← Option.some.inj last] at named
  exact absurd named (by decide)

theorem steps_join_name (base : Path) {name : List Char} (fits : EntryName name) :
    (base.join ⟨name⟩).steps = base.steps ++ [name] := by
  rw [steps_join base (isAbsolute_of_name fits.slashFree),
    steps_of_name fits.slashFree fits.notTrivial]

end Path

namespace FileTree

variable {tree : FileTree} {current place : Place}

/-- Going on by a name finds the entry of that name or nothing. -/
theorem follow_name (directory : tree.isDirectoryAt place = true) {name : List Char}
    (fits : EntryName name) :
    tree.follow place [name] =
      if (tree.get? (place ++ [name])).isSome then .ok (place ++ [name]) else .error .notFound := by
  have short := fits.short
  rw [follow, step]
  simp only [directory, fits.notTrivial, fits.notParent, Bool.not_true, Bool.false_eq_true,
    if_false, beq_iff_eq, if_neg (show ¬ nameLimit < Text.byteCount name by omega)]
  cases (tree.get? (place ++ [name])).isSome <;> rfl

/-- A path with a name at its end is looked up by its steps. -/
theorem resolve_join (tree : FileTree) (current : Place) {base : Path} {name : List Char}
    (fits : EntryName name) (room : base.HasRoom (Text.byteCount name + 1)) :
    tree.resolve current (base.join ⟨name⟩) =
      tree.follow (base.origin current) (base.steps ++ [name]) := by
  rw [resolve_eq_follow_steps (room.admitted fits)
      (Path.getLast?_segments_join base fits.slashFree) fits.notTrivial,
    origin_join base (Path.isAbsolute_of_name fits.slashFree), Path.steps_join_name base fits]

/-- A name behind a path exists exactly when the directory has an entry of that name. -/
theorem Reaches.pathExists_join {base : Path} (reaches : tree.Reaches current base place)
    {name : List Char} (fits : EntryName name)
    (room : base.HasRoom (Text.byteCount name + 1)) :
    tree.pathExists current (base.join ⟨name⟩) = (tree.get? (place ++ [name])).isSome := by
  rw [pathExists, lookup?, resolve_join tree current fits room,
    follow_append_of_ok reaches.arrives, follow_name reaches.directory fits]
  cases entry : tree.get? (place ++ [name]) with
  | none => rfl
  | some found => simp [entry]

end FileTree

end SheetLint
