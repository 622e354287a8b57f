/-!
# Results of steps

Where a step succeeds that is made of others, each of them succeeded.

## What is inside

- `exists_of_map_eq_ok`, `exists_of_bind_eq_ok`: the value that a step was made from.
-/

namespace ApiToolkit

section Results

variable {ε α β : Type}

theorem exists_of_map_eq_ok {f : α → β} {x : Except ε α} {b : β} (h : x.map f = .ok b) :
    ∃ a, x = .ok a ∧ f a = b := by
  cases x with
  | error e => cases h
  | ok a => exact ⟨a, rfl, Except.ok.inj h⟩

theorem exists_of_bind_eq_ok {f : α → Except ε β} {x : Except ε α} {b : β}
    (h : x.bind f = .ok b) : ∃ a, x = .ok a ∧ f a = .ok b := by
  cases x with
  | error e => cases h
  | ok a => exact ⟨a, rfl, h⟩

end Results

end ApiToolkit
