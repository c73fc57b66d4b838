import FreemkvUnlock.Interaction.Bracket
import FreemkvUnlock.Interaction.Stateful

/-! # Events that need an open span

In a guarded trace the spans are bracketed and certain events stand inside spans only. A property
of traces that composes, such as this one, holds of a program when it holds of its parts.
-/

namespace Interaction

/-! ## Guarded traces -/

section Guarded

variable {E R : Type} {B : Spans E R} {G : E → Prop}

/-- Traces whose events in `G` stand inside spans. -/
inductive Guarded (B : Spans E R) (G : E → Prop) : List E → Prop
  | nil : Guarded B G []
  | outside {e : E} {τ : List E} : B.Outside e → ¬ G e → Guarded B G τ → Guarded B G (e :: τ)
  | span {r : R} {o c : E} {body τ : List E} : B.opens o = some r → (∀ e ∈ body, B.inside r e) →
      B.closes r c → Guarded B G τ → Guarded B G (o :: (body ++ c :: τ))

namespace Guarded

theorem bracketed {τ : List E} (h : Guarded B G τ) : Bracketed B τ := by
  induction h with
  | nil => exact .nil
  | outside he _ _ ih => exact .outside he ih
  | span ho hb hc _ ih => exact .span ho hb hc ih

theorem of_outside {τ : List E} (h : ∀ e ∈ τ, B.Outside e ∧ ¬ G e) : Guarded B G τ := by
  induction τ with
  | nil => exact nil
  | cons e τ ih =>
    rw [List.forall_mem_cons] at h
    exact outside h.1.1 h.1.2 (ih h.2)

theorem append {τ ρ : List E} (h : Guarded B G τ) (h' : Guarded B G ρ) : Guarded B G (τ ++ ρ) := by
  induction h with
  | nil => exact h'
  | outside he hg _ ih => exact outside he hg ih
  | span ho hb hc _ ih =>
    rw [List.cons_append, List.append_assoc, List.cons_append]
    exact span ho hb hc ih

/-- A guarded event has its opening before it, with nothing but inside events since. -/
theorem opened {τ pre post : List E} {e : E} (h : Guarded B G τ)
    (hG : ∀ e, G e → B.Outside e) (hτ : τ = pre ++ e :: post) (he : G e)
    (hclose : ∀ r c, B.closes r c → B.isClose c) :
    ∃ pre' o body r, pre = pre' ++ o :: body ∧ B.opens o = some r ∧
      (∀ e ∈ body, B.inside r e) ∧ B.inside r e := by
  induction h generalizing pre with
  | nil => simp at hτ
  | @outside e' τ he' hg _ ih =>
    cases pre with
    | nil =>
      obtain ⟨rfl, rfl⟩ := List.cons.inj hτ
      exact absurd he hg
    | cons e' pre =>
      obtain ⟨rfl, htail⟩ := List.cons.inj hτ
      obtain ⟨pre', o, body, r, rfl, h⟩ := ih htail
      exact ⟨e' :: pre', o, body, r, rfl, h⟩
  | @span r o c body τ ho hb hc _ ih =>
    cases pre with
    | nil =>
      obtain ⟨rfl, rfl⟩ := List.cons.inj hτ
      rw [(hG o he).1] at ho
      cases ho
    | cons e' pre =>
      obtain ⟨rfl, htail⟩ := List.cons.inj hτ
      rcases split_cases htail with ⟨rfl, rfl, -⟩ | ⟨mid, rfl, -⟩ | ⟨mid, rfl, hmid⟩
      · exact absurd (hclose r c hc) (hG c he).2
      · exact ⟨[], o, pre, r, rfl, ho, fun e' he' => hb e' (by simp [he']), hb e (by simp)⟩
      · obtain ⟨pre', o', body', r', rfl, h⟩ := ih hmid
        exact ⟨o :: (body ++ c :: pre'), o', body', r', by simp, h⟩

end Guarded

end Guarded

/-! ## Properties of traces that compose -/

/-- A property of the empty trace, and of two traces in a row when it is one of both. -/
structure Composes {E : Type} (T : List E → Prop) : Prop where
  nil : T []
  append : ∀ {τ ρ}, T τ → T ρ → T (τ ++ ρ)

theorem Guarded.composes {E R : Type} {B : Spans E R} {G : E → Prop} : Composes (Guarded B G) :=
  ⟨.nil, .append⟩

variable {I : Interface} {σ α β ε ε' : Type} {T : List (Event I) → Prop}

def Traces (T : List (Event I) → Prop) (x : Prog I α) : Prop := ∀ ⦃τ a⦄, Run x τ a → T τ

namespace Traces

theorem of_issues {P : Event I → Prop} {x : Prog I α} (hx : Issues P x)
    (hT : ∀ τ : List (Event I), (∀ e ∈ τ, P e) → T τ) : Traces T x := fun τ _ h => hT τ (hx h)

theorem pure (hT : Composes T) (a : α) : Traces T (Pure.pure a : Prog I α) := by
  intro τ b h
  rw [(run_pure_iff.mp h).1]
  exact hT.nil

theorem bind (hT : Composes T) {x : Prog I α} {f : α → Prog I β} (hx : Traces T x)
    (hf : ∀ a, Traces T (f a)) : Traces T (x >>= f) := by
  intro τ b h
  obtain ⟨τ₁, a, τ₂, rfl, h₁, h₂⟩ := run_bind_iff.mp h
  exact hT.append (hx h₁) (hf a h₂)

theorem map {x : Prog I α} {f : α → β} (hx : Traces T x) : Traces T (f <$> x) := by
  intro τ b h
  obtain ⟨a, h, -⟩ := run_map_iff.mp h
  exact hx h

theorem seq (hT : Composes T) {x : Fallible I ε α} {f : α → Fallible I ε β} (hx : Traces T x.run)
    (hf : ∀ a, Traces T (f a).run) : Traces T (x >>= f).run := by
  rw [ExceptT.run_bind]
  refine bind hT hx fun r => ?_
  cases r with
  | error e => exact pure hT _
  | ok a => exact hf a

theorem ensure (hT : Composes T) (c : Prop) [Decidable c] (e : ε) :
    Traces T (Fallible.ensure c e : Fallible I ε Unit).run := by
  unfold Fallible.ensure
  split_ifs <;> exact pure hT _

theorem result (hT : Composes T) (r : Except ε α) :
    Traces T (Fallible.result r : Fallible I ε α).run := pure hT _

end Traces

namespace Stateful

variable {s : σ}

theorem traces_bind_of_run (hT : Composes T) {x : Stateful I σ ε α} {f : α → Stateful I σ ε β}
    (hx : Traces T (prog x s))
    (hf : ∀ τ a t, Run (prog x s) τ (.ok a, t) → Traces T (prog (f a) t)) :
    Traces T (prog (x >>= f) s) := by
  rintro τ ⟨r, s'⟩ h
  rcases run_bind_iff.mp h with ⟨e, -, h₁⟩ | ⟨τ₁, a, t, τ₂, rfl, h₁, h₂⟩
  · exact hx h₁
  · exact hT.append (hx h₁) (hf τ₁ a t h₁ h₂)

theorem traces_bind (hT : Composes T) {x : Stateful I σ ε α} {f : α → Stateful I σ ε β}
    (hx : Traces T (prog x s)) (hf : ∀ a t, Traces T (prog (f a) t)) :
    Traces T (prog (x >>= f) s) := traces_bind_of_run hT hx fun _ a t _ => hf a t

end Stateful

end Interaction
