import Mathlib.Data.List.Basic

/-!
# Histories that grow at their end

Properties of a history that speak of one of its events, of what went before it and of
what came after it, are proved along the history as it grows. When an event is added,
the one that is spoken of either was there before, and the new event comes after it, or
is the new event itself.
-/

namespace LcdCompositor

variable {α : Type} {history : List α} {e last : α} {P : List α → List α → Prop}

/-- Where a history that has grown by an event can be cut in front of a given one. -/
theorem exists_cut_concat :
    (∃ before after, history ++ [last] = before ++ e :: after ∧ P before after) ↔
      (∃ before after, history = before ++ e :: after ∧ P before (after ++ [last])) ∨
        last = e ∧ P history [] := by
  constructor
  · rintro ⟨before, after, same, holds⟩
    obtain rfl | ⟨late, final, rfl⟩ := List.eq_nil_or_concat after
    · obtain ⟨rfl, final⟩ := List.append_inj' same rfl
      exact .inr ⟨List.singleton_inj.mp final, holds⟩
    · rw [List.concat_eq_append] at same holds
      rw [← List.cons_append, ← List.append_assoc] at same
      obtain ⟨rfl, final⟩ := List.append_inj' same rfl
      obtain rfl := List.singleton_inj.mp final
      exact .inl ⟨before, late, rfl, holds⟩
  · rintro (⟨before, after, rfl, holds⟩ | ⟨rfl, holds⟩)
    · exact ⟨before, after ++ [last], by simp, holds⟩
    · exact ⟨history, [], rfl, holds⟩

end LcdCompositor
