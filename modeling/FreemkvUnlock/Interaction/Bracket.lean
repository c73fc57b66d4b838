import FreemkvUnlock.Interaction.Splits
import Mathlib.Tactic.Common

/-! # Brackets in traces

A resource is opened by one event and closed by another. In a bracketed trace spans do not
overlap: each opening is followed by its own closing with only events allowed inside the span
in between, and there is no other closing.
-/

namespace Interaction

/-- Opening and closing events of a resource, and the events allowed while it is held. -/
structure Spans (E R : Type) where
  opens : E → Option R
  isClose : E → Prop
  closes : R → E → Prop
  inside : R → E → Prop
  opens_of_inside : ∀ {r e}, inside r e → opens e = none
  not_close_of_inside : ∀ {r e}, inside r e → ¬ isClose e
  opens_of_closes : ∀ {r e}, closes r e → opens e = none

variable {E R : Type} {B : Spans E R}

/-- Events outside spans neither open nor close. -/
def Spans.Outside (B : Spans E R) (e : E) : Prop := B.opens e = none ∧ ¬ B.isClose e

inductive Bracketed (B : Spans E R) : List E → Prop
  | nil : Bracketed B []
  | outside {e : E} {τ : List E} : B.Outside e → Bracketed B τ → Bracketed B (e :: τ)
  | span {r : R} {o c : E} {body τ : List E} : B.opens o = some r → (∀ e ∈ body, B.inside r e) →
      B.closes r c → Bracketed B τ → Bracketed B (o :: (body ++ c :: τ))

namespace Bracketed

theorem of_outside {τ : List E} (h : ∀ e ∈ τ, B.Outside e) : Bracketed B τ := by
  induction τ with
  | nil => exact nil
  | cons e τ ih =>
    rw [List.forall_mem_cons] at h
    exact outside h.1 (ih h.2)

theorem append {τ ρ : List E} (h : Bracketed B τ) (h' : Bracketed B ρ) : Bracketed B (τ ++ ρ) := by
  induction h with
  | nil => exact h'
  | outside he _ ih => exact outside he ih
  | span ho hb hc _ ih =>
    rw [List.cons_append, List.append_assoc, List.cons_append]
    exact span ho hb hc ih

/-- Every opening has its closing, with nothing but inside events between. -/
theorem closed {τ pre post : List E} {o : E} {r : R} (h : Bracketed B τ)
    (hτ : τ = pre ++ o :: post) (ho : B.opens o = some r) :
    ∃ body c rest, post = body ++ c :: rest ∧ (∀ e ∈ body, B.inside r e) ∧ B.closes r c ∧
      Bracketed B rest := by
  induction h generalizing pre with
  | nil => simp at hτ
  | @outside e τ he _ ih =>
    cases pre with
    | nil =>
      obtain ⟨rfl, rfl⟩ := List.cons.inj hτ
      rw [he.1] at ho; cases ho
    | cons e' pre => exact ih (List.cons.inj hτ).2
  | @span r' o' c body τ ho' hb hc hτ' ih =>
    cases pre with
    | nil =>
      obtain ⟨rfl, rfl⟩ := List.cons.inj hτ
      obtain rfl : r = r' := by rw [ho] at ho'; exact Option.some.inj ho'
      exact ⟨body, c, τ, rfl, hb, hc, hτ'⟩
    | cons e' pre =>
      rcases split_cases (List.cons.inj hτ).2 with ⟨-, rfl, -⟩ | ⟨mid, rfl, -⟩ | ⟨mid, -, hmid⟩
      · rw [B.opens_of_closes hc] at ho; cases ho
      · rw [B.opens_of_inside (hb o (by simp))] at ho; cases ho
      · exact ih hmid

/-- Every closing has its opening, with nothing but inside events between. -/
theorem opened {τ pre post : List E} {c : E} (h : Bracketed B τ) (hτ : τ = pre ++ c :: post)
    (hc : B.isClose c) (hco : B.opens c = none) :
    ∃ pre' o body r, pre = pre' ++ o :: body ∧ B.opens o = some r ∧
      (∀ e ∈ body, B.inside r e) ∧ B.closes r c := by
  induction h generalizing pre with
  | nil => simp at hτ
  | @outside e τ he _ ih =>
    cases pre with
    | nil =>
      obtain ⟨rfl, rfl⟩ := List.cons.inj hτ
      exact absurd hc he.2
    | cons e' pre =>
      obtain ⟨rfl, htail⟩ := List.cons.inj hτ
      obtain ⟨pre', o, body, r, rfl, h⟩ := ih htail
      exact ⟨e :: pre', o, body, r, rfl, h⟩
  | @span r o c' body τ ho hb hc' hτ' ih =>
    cases pre with
    | nil =>
      obtain ⟨rfl, rfl⟩ := List.cons.inj hτ
      rw [ho] at hco; cases hco
    | cons e' pre =>
      obtain ⟨rfl, htail⟩ := List.cons.inj hτ
      rcases split_cases htail with ⟨rfl, rfl, -⟩ | ⟨mid, rfl, -⟩ | ⟨mid, rfl, hmid⟩
      · exact ⟨[], o, body, r, rfl, ho, hb, hc'⟩
      · exact absurd hc (B.not_close_of_inside (hb c (by simp)))
      · obtain ⟨pre', o', body', r', rfl, h⟩ := ih hmid
        exact ⟨o :: (body ++ c' :: pre'), o', body', r', by simp, h⟩

/-- An opening after which only inside events stand comes after any closing before it. -/
theorem opens_after_closing {pre pre' mid body : List E} {c o : E} {r : R}
    (h : pre ++ c :: mid = pre' ++ o :: body) (hc : B.isClose c) (hco : B.opens c = none)
    (ho : B.opens o = some r) (hbody : ∀ e ∈ body, B.inside r e) : o ∈ mid := by
  rcases split_cases h with ⟨-, rfl, -⟩ | ⟨between, -, rfl⟩ | ⟨between, -, rfl⟩
  · rw [ho] at hco; cases hco
  · exact absurd hc (B.not_close_of_inside (hbody c (by simp)))
  · exact List.mem_append_right _ List.mem_cons_self

end Bracketed

end Interaction
