import FreemkvUnlock.Interaction.Trace

/-! # Calls and their history

What a call may rely on is what the calls before it were and how they were answered. A program
upholds a guarantee when each of its calls satisfies it together with the history so far; the
past is summarised by events that happened and have not been spoilt since.
-/

namespace Interaction

variable {I : Interface} {α β ε ε' : Type}

/-! ## The past -/

section Since

variable {E : Type} {good bad : E → Prop} {h τ : List E} {e : E}

/-- A good event happened, and no bad one after it. -/
def Since (good bad : E → Prop) (h : List E) : Prop :=
  ∃ pre e post, h = pre ++ e :: post ∧ good e ∧ ∀ e' ∈ post, ¬ bad e'

namespace Since

theorem now (hg : good e) : Since good bad (h ++ [e]) := ⟨h, e, [], rfl, hg, nofun⟩

theorem append (hs : Since good bad h) (hτ : ∀ e ∈ τ, ¬ bad e) : Since good bad (h ++ τ) := by
  obtain ⟨pre, e, post, rfl, hg, hpost⟩ := hs
  refine ⟨pre, e, post ++ τ, by simp, hg, fun e' he' => ?_⟩
  rcases List.mem_append.mp he' with he' | he'
  · exact hpost e' he'
  · exact hτ e' he'

theorem concat (hs : Since good bad h) (he : ¬ bad e) : Since good bad (h ++ [e]) :=
  hs.append (by simpa using he)

theorem prepend (hs : Since good bad h) (ρ : List E) : Since good bad (ρ ++ h) := by
  obtain ⟨pre, e, post, rfl, hg, hpost⟩ := hs
  exact ⟨ρ ++ pre, e, post, by simp, hg, hpost⟩

/-- What holds of a history was so before its last part and not spoilt by it, or is the last
part's own doing. -/
theorem append_cases (hs : Since good bad (h ++ τ)) :
    (Since good bad h ∧ ∀ e ∈ τ, ¬ bad e) ∨ Since good bad τ := by
  obtain ⟨pre, e, post, heq, hg, hpost⟩ := hs
  rcases split_append heq with ⟨mid, rfl, rfl⟩ | ⟨mid, rfl, rfl⟩
  · exact .inl ⟨⟨pre, e, mid, rfl, hg, fun e' he' => hpost e' (List.mem_append_left τ he')⟩,
      fun e' he' => hpost e' (List.mem_append_right mid he')⟩
  · exact .inr ⟨mid, e, post, rfl, hg, hpost⟩

theorem filter {keep : E → Bool} (hs : Since good bad h) (hk : ∀ e, good e → keep e = true) :
    Since good bad (h.filter keep) := by
  obtain ⟨pre, e, post, rfl, hg, hpost⟩ := hs
  refine ⟨pre.filter keep, e, post.filter keep, by simp [hk e hg], hg, fun e' he' => ?_⟩
  exact hpost e' (List.mem_of_mem_filter he')

theorem mono {good' bad' : E → Prop} (hs : Since good bad h) (hg : ∀ e, good e → good' e)
    (hb : ∀ e, bad' e → bad e) : Since good' bad' h := by
  obtain ⟨pre, e, post, rfl, he, hpost⟩ := hs
  exact ⟨pre, e, post, rfl, hg e he, fun e' he' hbad => hpost e' he' (hb e' hbad)⟩

end Since

end Since

/-! ## Guarantees -/

/-- From a history in `P`, every call satisfies `G` with the history before it, and the program
ends with a history in `Q`. -/
def Upholds (G : List (Event I) → Event I → Prop) (P : List (Event I) → Prop) (x : Prog I α)
    (Q : α → List (Event I) → Prop) : Prop :=
  ∀ ⦃h τ a⦄, P h → Run x τ a →
    (∀ pre e post, τ = pre ++ e :: post → G (h ++ pre) e) ∧ Q a (h ++ τ)

variable {G : List (Event I) → Event I → Prop} {P P' : List (Event I) → Prop}

namespace Upholds

variable {Q Q' R : α → List (Event I) → Prop} {x : Prog I α}

theorem pure {a : α} (hQ : ∀ h, P h → Q a h) : Upholds G P (Pure.pure a : Prog I α) Q := by
  intro h τ b hP hr
  obtain ⟨rfl, rfl⟩ := run_pure_iff.mp hr
  exact ⟨fun pre e post hτ => by simp at hτ, by simpa using hQ h hP⟩

theorem ask {o : I.Op} {Q : I.Answer o → List (Event I) → Prop}
    (hG : ∀ h r, P h → G h ⟨o, r⟩) (hQ : ∀ h r, P h → Q r (h ++ [⟨o, r⟩])) :
    Upholds G P (Prog.ask o) Q := by
  intro h τ r hP hr
  obtain rfl := run_ask_iff.mp hr
  refine ⟨fun pre e post hτ => ?_, hQ h r hP⟩
  cases pre with
  | nil =>
    obtain ⟨rfl, -⟩ := List.cons.inj hτ
    simpa using hG h r hP
  | cons e' pre => simp at hτ

theorem bind {f : α → Prog I β} {Q : β → List (Event I) → Prop} (hx : Upholds G P x R)
    (hf : ∀ a, Upholds G (R a) (f a) Q) : Upholds G P (x >>= f) Q := by
  intro h τ b hP hr
  obtain ⟨τ₁, a, τ₂, rfl, h₁, h₂⟩ := run_bind_iff.mp hr
  obtain ⟨hG₁, hR⟩ := hx hP h₁
  obtain ⟨hG₂, hQ⟩ := hf a hR h₂
  refine ⟨fun pre e post hτ => ?_, by simpa using hQ⟩
  rcases split_append hτ with ⟨mid, rfl, -⟩ | ⟨mid, rfl, hmid⟩
  · exact hG₁ pre e mid rfl
  · simpa using hG₂ mid e post hmid

theorem map {f : α → β} {Q : β → List (Event I) → Prop}
    (hx : Upholds G P x fun a => Q (f a)) : Upholds G P (f <$> x) Q := by
  rw [← bind_pure_comp]
  exact hx.bind fun a => pure fun _ => id

theorem mono (hx : Upholds G P x Q) (hP : ∀ h, P' h → P h) (hQ : ∀ a h, Q a h → Q' a h) :
    Upholds G P' x Q' := fun _ _ _ h hr =>
  ⟨(hx (hP _ h) hr).1, hQ _ _ (hx (hP _ h) hr).2⟩

end Upholds

/-- A fallible program that upholds `G`; `Q` speaks of successful ends only. -/
def Secures (G : List (Event I) → Event I → Prop) (P : List (Event I) → Prop)
    (x : Fallible I ε α) (Q : α → List (Event I) → Prop) : Prop :=
  Upholds G P x.run fun r h => ∀ a, r = .ok a → Q a h

namespace Secures

open Fallible

variable {Q Q' R : α → List (Event I) → Prop} {x : Fallible I ε α}

theorem ret {a : α} (hQ : ∀ h, P h → Q a h) : Secures G P (Pure.pure a : Fallible I ε α) Q :=
  Upholds.pure fun h hP _ hb => Except.ok.inj hb ▸ hQ h hP

theorem lift {x : Prog I α} (hx : Upholds G P x Q) :
    Secures G P (ExceptT.lift x : Fallible I ε α) Q := by
  unfold Secures
  rw [ExceptT.run_lift]
  exact .map (hx.mono (fun _ => id) fun a h hQ b hb => Except.ok.inj hb ▸ hQ)

theorem result {r : Except ε α} (hQ : ∀ h a, P h → r = .ok a → Q a h) :
    Secures G P (Fallible.result r : Fallible I ε α) Q :=
  Upholds.pure fun h hP a hr => hQ h a hP hr

theorem ensure {c : Prop} [Decidable c] {e : ε} :
    Secures G P (Fallible.ensure c e : Fallible I ε Unit) fun _ h => c ∧ P h := by
  intro h τ r hP hr
  obtain ⟨rfl, rfl⟩ := run_ensure_iff.mp hr
  refine ⟨fun pre e post hτ => by simp at hτ, fun u hu => ?_⟩
  split_ifs at hu with hc
  simpa [hc] using hP

theorem seq {f : α → Fallible I ε β} {Q : β → List (Event I) → Prop} (hx : Secures G P x R)
    (hf : ∀ a, Secures G (R a) (f a) Q) : Secures G P (x >>= f) Q := by
  unfold Secures
  rw [ExceptT.run_bind]
  refine Upholds.bind hx fun r => ?_
  cases r with
  | error e => exact .pure fun h _ _ hb => by cases hb
  | ok a => exact (hf a).mono (fun h hR => hR a rfl) fun _ _ => id

theorem mono (hx : Secures G P x Q) (hP : ∀ h, P' h → P h) (hQ : ∀ a h, Q a h → Q' a h) :
    Secures G P' x Q' := Upholds.mono hx hP fun _ h hr a ha => hQ a h (hr a ha)

theorem static {S : Prop} (hx : S → Secures G P x Q) : Secures G (fun h => S ∧ P h) x Q :=
  fun _ _ _ hP hr => hx hP.1 hP.2 hr

end Secures

end Interaction
