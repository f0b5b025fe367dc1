/-!
# Results that succeed

A chain of steps succeeds exactly if every step does. The steps of a reader or a loader
are taken apart this way, whatever their faults are.
-/

namespace LcdCompositor

variable {ε α β : Type} {result : Except ε α} {value : β}

theorem map_eq_ok_iff {f : α → β} :
    result.map f = .ok value ↔ ∃ found, result = .ok found ∧ f found = value := by
  cases result <;> simp [Except.map]

theorem bind_eq_ok_iff {next : α → Except ε β} :
    result >>= next = .ok value ↔ ∃ found, result = .ok found ∧ next found = .ok value := by
  cases result <;> simp [bind, Except.bind]

end LcdCompositor
