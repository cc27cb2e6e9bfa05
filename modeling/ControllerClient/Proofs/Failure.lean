import Mathlib
import ControllerClient.Failure

/-!
Computations that can fail, one behind the other. What they give together tells
what each of them gave, and the failures that come up are failures of one of them.
-/

namespace ControllerClient

/-- A computation and one behind it succeed exactly when the second does on what the first gives. -/
theorem bind_eq_ok_iff {α β : Type} {result : Except Failure α} {next : α → Except Failure β}
    {value : β} :
    (result >>= next) = .ok value ↔ ∃ found, result = .ok found ∧ next found = .ok value := by
  cases result with
  | error failure =>
      constructor
      · intro none
        cases none
      · rintro ⟨found, none, _⟩
        cases none
  | ok found =>
      constructor
      · intro goesOn
        exact ⟨found, rfl, goesOn⟩
      · rintro ⟨other, same, goesOn⟩
        cases same
        exact goesOn

theorem bind_eq_error_iff {α β : Type} {result : Except Failure α}
    {next : α → Except Failure β} {failure : Failure} :
    (result >>= next) = .error failure ↔
      result = .error failure ∨ ∃ found, result = .ok found ∧ next found = .error failure := by
  cases result with
  | error other =>
      constructor
      · intro fails
        cases fails
        exact Or.inl rfl
      · rintro (fails | ⟨found, none, _⟩)
        · cases fails
          rfl
        · cases none
  | ok found =>
      constructor
      · intro fails
        exact Or.inr ⟨found, rfl, fails⟩
      · rintro (none | ⟨other, same, fails⟩)
        · cases none
        · cases same
          exact fails

/-- A result that is none of some failures. -/
def Avoids {ι α : Type} (failures : ι → Failure) (result : Except Failure α) : Prop :=
  ∀ cause, result ≠ .error (failures cause)

namespace Avoids

variable {ι α β : Type} {failures : ι → Failure}

theorem ok (value : α) : Avoids failures (.ok value) := by
  intro cause same
  cases same

theorem bind {result : Except Failure α} {next : α → Except Failure β}
    (first : Avoids failures result) (later : ∀ value, Avoids failures (next value)) :
    Avoids failures (result >>= next) := by
  intro cause fails
  rcases bind_eq_error_iff.mp fails with fails | ⟨value, _, fails⟩
  · exact first cause fails
  · exact later value cause fails

theorem map {result : Except Failure α} (avoids : Avoids failures result) (f : α → β) :
    Avoids failures (result.map f) := by
  intro cause same
  cases result with
  | error failure =>
      cases same
      exact avoids cause rfl
  | ok value => cases same

theorem error {failure : Failure} (avoids : Avoids failures (.error failure : Except Failure α)) :
    Avoids failures (.error failure : Except Failure β) := by
  intro cause same
  cases same
  exact avoids cause rfl

end Avoids

end ControllerClient
