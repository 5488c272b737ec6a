import BuildBroker.Json.Decode

/-!
# Outcomes of Computations That Can Fail

A computation in steps that gives a value has given one at each step.

Main statements:
- `Outcome.of_bind_eq_ok`, `Outcome.of_map_eq_ok`: the value before the last step.
- `Json.within_eq_ok`: placing an error further in changes no value.
-/

namespace BuildBroker

namespace Outcome

variable {ε α β : Type} {b : β}

/-- A computation that gives a value has given one at its first step. -/
theorem of_bind_eq_ok {x : Except ε α} {f : α → Except ε β} (h : x >>= f = .ok b) :
    ∃ a, x = .ok a ∧ f a = .ok b := by
  cases x with
  | error e => cases h
  | ok a => exact ⟨a, rfl, h⟩

/-- A value that is made of another's is made of one that was there. -/
theorem of_map_eq_ok {x : Except ε α} {f : α → β} (h : x.map f = .ok b) :
    ∃ a, x = .ok a ∧ f a = b := by
  cases x with
  | error e => cases h
  | ok a => exact ⟨a, rfl, Except.ok.inj h⟩

end Outcome

theorem Json.within_eq_ok {α : Type} {step : Step} {r : Decoded α} {a : α} :
    within step r = .ok a ↔ r = .ok a := by
  cases r with
  | ok x => rfl
  | error e => cases e <;> exact ⟨nofun, nofun⟩

end BuildBroker
