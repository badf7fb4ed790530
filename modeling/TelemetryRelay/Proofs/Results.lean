/-! # One result after another

    A computation that may fail goes on with the result of another one unless that failed.
    Readers of texts and of settings are made in this way, step by step, and these are the
    ways to take such a computation apart.
-/

namespace TelemetryRelay

namespace Results

variable {ε α β : Type} {first : Except ε α} {next other : α → Except ε β}

/-- What two computations make is what the first makes, and then the second. -/
theorem exists_of_bind {b : β} (h : first >>= next = .ok b) :
    ∃ a, first = .ok a ∧ next a = .ok b := by
  cases first with
  | error fault => cases h
  | ok a => exact ⟨a, rfl, h⟩

theorem bind_eq {a : α} (h : first = .ok a) (next : α → Except ε β) :
    first >>= next = next a := by
  rw [h]
  rfl

/-- What is made of a result is made of one that there is. -/
theorem map_eq_ok_iff {f : α → β} {b : β} :
    first.map f = .ok b ↔ ∃ a, first = .ok a ∧ f a = b := by
  cases first <;> simp [Except.map]

/-- Two ways to go on that fail alike fail alike after the same result. -/
theorem bind_eq_error_iff {e : ε} (h : ∀ a, next a = .error e ↔ other a = .error e) :
    first >>= next = .error e ↔ first >>= other = .error e := by
  cases first with
  | error fault => exact Iff.rfl
  | ok a => exact h a

end Results

end TelemetryRelay
