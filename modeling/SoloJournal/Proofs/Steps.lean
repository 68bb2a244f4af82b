import Mathlib.Data.List.Basic

/-!
# Steps that may fail

A chain of steps comes to something just when each step does, and fails with the
problem of the first step that does not.
-/

namespace SoloJournal

variable {ε ε' α β : Type} {value : α}

theorem bind_eq_ok {first : Except ε α} {next : α → Except ε β} {result : β} :
    first >>= next = .ok result ↔
      ∃ value, first = .ok value ∧ next value = .ok result := by
  cases first <;> simp [bind, Except.bind]

theorem mapError_eq_ok {convert : ε → ε'} {outcome : Except ε α} :
    outcome.mapError convert = .ok value ↔ outcome = .ok value := by
  cases outcome <;> simp [Except.mapError]

/-- A step behind a check succeeds just when the check does and the step does. -/
theorem checked_eq_ok {γ : Type} {check : Bool} {problem : ε}
    {skipped : γ → Except ε α} {next : Except ε α} :
    (if (!check) = true then throw problem >>= skipped else next) = .ok value ↔
      check = true ∧ next = .ok value := by
  cases check <;> simp [throw, throwThe, MonadExceptOf.throw, bind, Except.bind]

theorem bind_eq_error {first : Except ε α} {next : α → Except ε β}
    {problem : ε} :
    first >>= next = .error problem ↔
      first = .error problem ∨
        ∃ value, first = .ok value ∧ next value = .error problem := by
  cases first <;> simp [bind, Except.bind]

theorem mapError_eq_error {convert : ε → ε'} {outcome : Except ε α}
    {problem : ε'} :
    outcome.mapError convert = .error problem ↔
      ∃ cause, outcome = .error cause ∧ convert cause = problem := by
  cases outcome <;> simp [Except.mapError]

/-- A step behind a check fails when the check does, with its problem, or when
the step does. -/
theorem checked_eq_error {γ : Type} {check : Bool} {problem found : ε}
    {skipped : γ → Except ε α} {next : Except ε α} :
    (if (!check) = true then throw problem >>= skipped else next) =
        .error found ↔
      check = false ∧ problem = found ∨
        check = true ∧ next = .error found := by
  cases check <;> simp [throw, throwThe, MonadExceptOf.throw, bind, Except.bind]

end SoloJournal
