/-!
# Computations that may fail

A computation in steps succeeds if and only if all of its steps do.
-/

namespace RemoteShell

variable {ε α β : Type}

/-- A computation that goes on after another one needs both to succeed. -/
theorem bind_eq_ok_iff {first : Except ε α} {next : α → Except ε β} {b : β} :
    (first >>= next) = .ok b ↔ ∃ a, first = .ok a ∧ next a = .ok b := by
  cases first with
  | error e => exact ⟨nofun, fun ⟨_, h, _⟩ => nomatch h⟩
  | ok a => exact ⟨fun h => ⟨a, rfl, h⟩, fun ⟨_, ha, h⟩ => by cases ha; exact h⟩

end RemoteShell
