import FreemkvUnlock.Interaction.Stateful

/-! # Results with a cause

A program blames its environment for a result when such a result comes only from runs in which
the environment gave a reason for it. A result that was already given a reason needs no second
one, so a sequence is looked at only after parts that went well.
-/

namespace Interaction

variable {I : Interface} {α β γ ε ε' σ : Type} {B B' : Event I → Prop}

/-- Results in `R` come only from runs with an event of `B`. -/
def Blames (B : Event I → Prop) (R : α → Prop) (x : Prog I α) : Prop :=
  ∀ ⦃τ a⦄, Run x τ a → R a → ∃ e ∈ τ, B e

theorem HaltsOn.blames {F : Event I → Prop} {T : List (Event I) → Prop} {R : α → Prop}
    {x : Prog I α} (hx : HaltsOn F T R x) : Blames F R x :=
  fun _ _ h hR => (hx.result_iff h).mp hR

namespace Blames

variable {R : α → Prop} {x : Prog I α}

theorem mono (hx : Blames B R x) (hB : ∀ e, B e → B' e) : Blames B' R x := by
  intro τ a h hR
  obtain ⟨e, he, hBe⟩ := hx h hR
  exact ⟨e, he, hB e hBe⟩

theorem pure {a : α} (h : ¬ R a) : Blames B R (Pure.pure a : Prog I α) := by
  intro τ b hr hR
  obtain ⟨-, rfl⟩ := run_pure_iff.mp hr
  exact absurd hR h

theorem ask {o : I.Op} {R : I.Answer o → Prop} (h : ∀ r, R r → B ⟨o, r⟩) :
    Blames B R (Prog.ask o) := by
  intro τ r hr hR
  rw [run_ask_iff.mp hr]
  exact ⟨_, List.mem_singleton_self _, h r hR⟩

theorem bind {R' : β → Prop} {f : α → Prog I β} (hx : Blames B R x)
    (hf : ∀ a, ¬ R a → Blames B R' (f a)) : Blames B R' (x >>= f) := by
  intro τ b h hb
  obtain ⟨τ₁, a, τ₂, rfl, h₁, h₂⟩ := run_bind_iff.mp h
  by_cases ha : R a
  · obtain ⟨e, he, hB⟩ := hx h₁ ha
    exact ⟨e, List.mem_append_left τ₂ he, hB⟩
  · obtain ⟨e, he, hB⟩ := hf a ha h₂ hb
    exact ⟨e, List.mem_append_right τ₁ he, hB⟩

theorem map {R' : β → Prop} {f : α → β} (hx : Blames B R x) (hf : ∀ a, R' (f a) → R a) :
    Blames B R' (f <$> x) := by
  intro τ b h hb
  obtain ⟨a, ha, rfl⟩ := run_map_iff.mp h
  exact hx ha (hf a hb)

/-! ## Fallible programs -/

open Fallible

variable {p : ε → Prop}

theorem ret (a : α) : Blames B (Fails p) (Pure.pure a : Fallible I ε α).run := pure id

theorem throw {e : ε} (h : ¬ p e) :
    Blames B (Fails p) (MonadExcept.throw e : Fallible I ε α).run := pure h

theorem result {r : Except ε α} (h : ¬ Fails p r) :
    Blames B (Fails p) (Fallible.result r : Fallible I ε α).run := pure h

theorem ensure {c : Prop} [Decidable c] {e : ε} (h : ¬ p e) :
    Blames B (Fails p) (Fallible.ensure c e : Fallible I ε Unit).run := by
  unfold Fallible.ensure
  split_ifs
  · exact ret ()
  · exact throw h

theorem lift (x : Prog I α) : Blames B (Fails p) (ExceptT.lift x : Fallible I ε α).run := by
  intro τ r h hr
  obtain ⟨a, -, rfl⟩ := run_lift_iff.mp h
  exact hr.elim

theorem seq {x : Fallible I ε α} {f : α → Fallible I ε β} (hx : Blames B (Fails p) x.run)
    (hf : ∀ a, Blames B (Fails p) (f a).run) : Blames B (Fails p) (x >>= f).run := by
  intro τ r h hr
  rcases run_fallible_bind_iff.mp h with ⟨e, rfl, h₁⟩ | ⟨τ₁, a, τ₂, rfl, h₁, h₂⟩
  · exact hx h₁ hr
  · obtain ⟨e, he, hB⟩ := hf a h₂ hr
    exact ⟨e, List.mem_append_right τ₁ he, hB⟩

theorem askResult {o : I.Op} {f : I.Answer o → Except ε α}
    (h : ∀ r, Fails p (f r) → B ⟨o, r⟩) :
    Blames B (Fails p)
      (ExceptT.lift (Prog.ask o) >>= fun a => Fallible.result (f a) : Fallible I ε α).run := by
  intro τ r hr hR
  obtain ⟨a, rfl, rfl⟩ := run_ask_result_iff.mp hr
  exact ⟨_, List.mem_singleton_self _, h a hR⟩

theorem forM {γ : Type} {f : γ → Fallible I ε Unit} (hf : ∀ c, Blames B (Fails p) (f c).run)
    (cs : List γ) : Blames B (Fails p) (cs.forM f).run := by
  induction cs with
  | nil => exact ret ()
  | cons c cs ih =>
    change Blames B (Fails p) (f c >>= fun _ => cs.forM f).run
    exact .seq (hf c) fun _ => ih

end Blames

/-! ## Causes that depend on what went before -/

/-- Results in `R` come only from runs with an event that `B` blames after the events before it. -/
def BlamesAfter (B : List (Event I) → Event I → Prop) (R : α → Prop) (x : Prog I α) : Prop :=
  ∀ ⦃τ a⦄, Run x τ a → R a → ∃ pre e post, τ = pre ++ e :: post ∧ B pre e

namespace BlamesAfter

open Fallible

variable {C : List (Event I) → Event I → Prop} {p : ε → Prop}

def Lasting (C : List (Event I) → Event I → Prop) : Prop :=
  ∀ before pre e, C pre e → C (before ++ pre) e

theorem ret (a : α) : BlamesAfter C (Fails p) (Pure.pure a : Fallible I ε α).run := by
  intro τ r h hr
  obtain ⟨-, rfl⟩ := run_fallible_pure_iff.mp h
  exact hr.elim

theorem seq {x : Fallible I ε α} {f : α → Fallible I ε β} (hC : Lasting C)
    (hx : BlamesAfter C (Fails p) x.run) (hf : ∀ a, BlamesAfter C (Fails p) (f a).run) :
    BlamesAfter C (Fails p) (x >>= f).run := by
  intro τ r h hr
  rcases run_fallible_bind_iff.mp h with ⟨e, rfl, h₁⟩ | ⟨τ₁, a, τ₂, rfl, h₁, h₂⟩
  · exact hx h₁ hr
  · obtain ⟨pre, e, post, rfl, he⟩ := hf a h₂ hr
    exact ⟨τ₁ ++ pre, e, post, by simp, hC τ₁ pre e he⟩

theorem forM {γ : Type} {f : γ → Fallible I ε Unit} {cs : List γ} (hC : Lasting C)
    (hf : ∀ c ∈ cs, BlamesAfter C (Fails p) (f c).run) :
    BlamesAfter C (Fails p) (cs.forM f).run := by
  induction cs with
  | nil => exact ret ()
  | cons c cs ih =>
    change BlamesAfter C (Fails p) (f c >>= fun _ => cs.forM f).run
    exact seq hC (hf c List.mem_cons_self) fun _ =>
      ih fun c' hc' => hf c' (List.mem_cons_of_mem c hc')

end BlamesAfter

/-! ## Programs with a state -/

namespace Stateful

variable {p : ε → Prop} {s : σ}

theorem blames_lift {x : Fallible I ε α} (hx : Blames B (Fails p) x.run) :
    Blames B (fun q => Fails p q.1) (prog (lift x : Stateful I σ ε α) s) := hx.map fun _ => id

theorem blames_mapErr {p' : ε' → Prop} {f : ε → ε'} {x : Stateful I σ ε α}
    (hx : Blames B (fun q => Fails p q.1) (prog x s)) (hf : ∀ e, p' (f e) → p e) :
    Blames B (fun q => Fails p' q.1) (prog (mapErr f x) s) := by
  refine hx.map fun q hq => ?_
  rcases q with ⟨e | a, t⟩
  · exact hf e hq
  · exact hq.elim

/-- A sequence whose results may be read in another way than by their errors alone. -/
theorem blames_bind {R : Except ε β → Prop} {x : Stateful I σ ε α} {f : α → Stateful I σ ε β}
    (hR : ∀ e, R (.error e) → p e) (hx : Blames B (fun q => Fails p q.1) (prog x s))
    (hf : ∀ a t, Blames B (fun q => R q.1) (prog (f a) t)) :
    Blames B (fun q => R q.1) (prog (x >>= f) s) := by
  rw [prog_bind]
  refine hx.bind fun q hq => ?_
  rcases q with ⟨e | a, t⟩
  · exact .pure fun h => hq (hR e h)
  · exact hf a t

/-- A failure that is looked at: what follows one in `p` needs no reason of its own. -/
theorem blames_attempt_bind {R : Except ε' β → Prop} {x : Stateful I σ ε α}
    {f : Except ε α → Stateful I σ ε' β} (hx : Blames B (fun q => Fails p q.1) (prog x s))
    (hf : ∀ r t, ¬ Fails p r → Blames B (fun q => R q.1) (prog (f r) t)) :
    Blames B (fun q => R q.1) (prog (attempt x >>= f) s) := by
  rintro τ ⟨r, s'⟩ h hr
  obtain ⟨τ₁, r₁, t, τ₂, rfl, h₁, h₂⟩ := run_attempt_bind_iff.mp h
  by_cases hr₁ : Fails p r₁
  · obtain ⟨e, he, hB⟩ := hx h₁ hr₁
    exact ⟨e, List.mem_append_left τ₂ he, hB⟩
  · obtain ⟨e, he, hB⟩ := hf r₁ t hr₁ h₂ hr
    exact ⟨e, List.mem_append_right τ₁ he, hB⟩

/-- What a loop is blamed for by the iteration that ended it. -/
def Ended (R : Except ε α → Prop) : Except ε (Option α) → Prop
  | .error e => R (.error e)
  | .ok none => False
  | .ok (some a) => R (.ok a)

theorem blames_retry {R : Except ε α → Prop} {body : Stateful I σ ε (Option α)}
    (hbody : ∀ s, Blames B (fun q => Ended R q.1) (prog body s)) (fuel : ℕ) :
    ∀ s, Blames B (fun q => R q.1) (prog (retry body fuel) s) := by
  induction fuel with
  | zero => exact fun s τ q h => absurd h not_run_diverge
  | succ fuel ih =>
    rintro s τ ⟨r, s'⟩ h hr
    rcases run_retry_succ_iff.mp h with ⟨e, rfl, h₁⟩ | ⟨a, rfl, h₁⟩ | ⟨τ₁, t, τ₂, rfl, h₁, h₂⟩
    · exact hbody s h₁ hr
    · exact hbody s h₁ hr
    · obtain ⟨e, he, hB⟩ := ih t h₂ hr
      exact ⟨e, List.mem_append_right τ₁ he, hB⟩

end Stateful

end Interaction
