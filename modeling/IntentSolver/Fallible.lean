/-!
# Computations that may fail

Peeling a sequence of fallible steps apart: where the whole ends well, each step did.
-/

namespace IntentSolver.Fallible

variable {ε α β : Type}

/-- A sequence that ends well had its first step end well. -/
theorem bind_ok {first : Except ε α} {next : α → Except ε β} {result : β}
    (h : first >>= next = .ok result) : ∃ value, first = .ok value ∧ next value = .ok result := by
  cases first with
  | error fault => cases h
  | ok value => exact ⟨value, rfl, h⟩

/-- A step that ends well hands its value on. -/
theorem ok_bind (value : α) (next : α → Except ε β) :
    (Except.ok value >>= next) = next value := rfl

/-- A step that fails ends the sequence. -/
theorem error_bind (fault : ε) (next : α → Except ε β) :
    (Except.error fault >>= next) = .error fault := rfl

end IntentSolver.Fallible
