/-
This file says when a computation that may fail succeeds and when it fails.
-/

namespace SheetLint

variable {Error Other Item Result : Type}

/-- A step that may fail succeeds when it and the steps behind it succeed. -/
theorem bind_eq_ok_iff {step : Except Error Item} {later : Item → Except Error Result}
    {result : Result} :
    (step >>= later) = .ok result ↔ ∃ item, step = .ok item ∧ later item = .ok result := by
  cases step with
  | error fault =>
      constructor
      · intro equal
        cases equal
      · intro given
        obtain ⟨item, equal, _⟩ := given
        cases equal
  | ok item =>
      constructor
      · exact fun equal => ⟨item, rfl, equal⟩
      · intro given
        obtain ⟨other, equal, found⟩ := given
        rw [Except.ok.inj equal]
        exact found

theorem pure_eq_ok_iff {item result : Item} :
    (pure item : Except Error Item) = .ok result ↔ item = result :=
  ⟨Except.ok.inj, congrArg _⟩

theorem pure_ne_error {item : Item} {fault : Error} :
    (pure item : Except Error Item) ≠ .error fault := nofun

theorem map_eq_ok_iff {step : Except Error Item} {change : Item → Result} {result : Result} :
    step.map change = .ok result ↔ ∃ item, step = .ok item ∧ change item = result := by
  cases step <;> simp [Except.map]

theorem mapError_eq_ok_iff {step : Except Error Item} {change : Error → Other} {item : Item} :
    step.mapError change = .ok item ↔ step = .ok item := by
  cases step with
  | error fault => constructor <;> (intro equal; cases equal)
  | ok value => constructor <;> (intro equal; cases equal; rfl)

/-- A failure comes from the first step or, behind its success, from the later ones. -/
theorem bind_eq_error_iff {step : Except Error Item} {later : Item → Except Error Result}
    {fault : Error} :
    (step >>= later) = .error fault ↔
      step = .error fault ∨ ∃ item, step = .ok item ∧ later item = .error fault := by
  cases step with
  | error other =>
      constructor
      · intro failed
        cases failed
        exact .inl rfl
      · rintro (same | ⟨item, given, -⟩)
        · cases same
          rfl
        · cases given
  | ok item =>
      constructor
      · exact fun failed => .inr ⟨item, rfl, failed⟩
      · rintro (same | ⟨other, given, failed⟩)
        · cases same
        · cases given
          exact failed

theorem map_eq_error_iff {step : Except Error Item} {change : Item → Result} {fault : Error} :
    step.map change = .error fault ↔ step = .error fault := by
  cases step <;> simp [Except.map]

theorem mapError_eq_error_iff {step : Except Error Item} {change : Error → Other} {fault : Other} :
    step.mapError change = .error fault ↔ ∃ cause, step = .error cause ∧ change cause = fault := by
  cases step with
  | error cause =>
      constructor
      · exact fun failed => ⟨cause, rfl, Except.error.inj failed⟩
      · rintro ⟨other, given, same⟩
        cases given
        exact congrArg Except.error same
  | ok item =>
      constructor
      · exact nofun
      · rintro ⟨cause, given, -⟩
        cases given

end SheetLint
