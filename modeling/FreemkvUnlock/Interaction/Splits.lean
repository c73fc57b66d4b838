import Mathlib.Data.List.Basic

/-! # Splits of a list

Statements about every occurrence of an event speak of the splits of a trace around it. A split
of an appended trace is a split of one of its parts.
-/

namespace Interaction

variable {α : Type} {l₁ l₂ pre post : List α} {a b : α}

theorem split_append (h : l₁ ++ l₂ = pre ++ a :: post) :
    (∃ mid, l₁ = pre ++ a :: mid ∧ post = mid ++ l₂) ∨
      ∃ mid, pre = l₁ ++ mid ∧ l₂ = mid ++ a :: post := by
  rcases List.append_eq_append_iff.mp h with ⟨mid, rfl, hmid⟩ | ⟨mid, rfl, hmid⟩
  · exact .inr ⟨mid, rfl, hmid⟩
  · cases mid with
    | nil => exact .inr ⟨[], by simp, hmid.symm⟩
    | cons b mid =>
      obtain ⟨rfl, rfl⟩ := List.cons.inj hmid
      exact .inl ⟨mid, rfl, rfl⟩

theorem split_cases (h : l₁ ++ b :: l₂ = pre ++ a :: post) :
    (l₁ = pre ∧ b = a ∧ l₂ = post) ∨ (∃ mid, l₁ = pre ++ a :: mid ∧ post = mid ++ b :: l₂) ∨
      ∃ mid, pre = l₁ ++ b :: mid ∧ l₂ = mid ++ a :: post := by
  rcases split_append h with h | ⟨mid, rfl, hmid⟩
  · exact .inr (.inl h)
  · cases mid with
    | nil =>
      obtain ⟨rfl, rfl⟩ := List.cons.inj hmid
      exact .inl ⟨by simp, rfl, rfl⟩
    | cons c mid =>
      obtain ⟨rfl, rfl⟩ := List.cons.inj hmid
      exact .inr (.inr ⟨mid, rfl, rfl⟩)

end Interaction
