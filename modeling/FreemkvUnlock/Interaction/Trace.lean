import FreemkvUnlock.Interaction.Prog

/-! # Properties of every event

`Issues P x` says that every event of every run of `x` satisfies `P`. It is closed under the
ways programs are put together, so it is read off the calls a program makes. `FailsWith Q x`
says the same of the errors `x` can end with.
-/

namespace Interaction

variable {I : Interface} {α β ε ε' : Type} {P Q : Event I → Prop}

/-- Every event of every completed run satisfies `P`. -/
def Issues (P : Event I → Prop) (x : Prog I α) : Prop :=
  ∀ ⦃τ : List (Event I)⦄ ⦃a : α⦄, Run x τ a → ∀ e ∈ τ, P e

namespace Issues

theorem mono {x : Prog I α} (h : Issues P x) (hPQ : ∀ e, P e → Q e) : Issues Q x :=
  fun _ _ hr e he => hPQ e (h hr e he)

theorem pure (a : α) : Issues P (Pure.pure a : Prog I α) := by
  intro τ b h
  rw [(run_pure_iff.mp h).1]
  nofun

theorem ask {o : I.Op} (h : ∀ r, P ⟨o, r⟩) : Issues P (Prog.ask o) := by
  intro τ r hr
  rw [run_ask_iff.mp hr]
  simpa using h r

theorem bind_of_run {x : Prog I α} {f : α → Prog I β} (hx : Issues P x)
    (hf : ∀ τ a, Run x τ a → Issues P (f a)) : Issues P (x >>= f) := by
  intro τ b h e he
  obtain ⟨τ₁, a, τ₂, rfl, h₁, h₂⟩ := run_bind_iff.mp h
  rcases List.mem_append.mp he with he | he
  · exact hx h₁ e he
  · exact hf τ₁ a h₁ h₂ e he

theorem bind {x : Prog I α} {f : α → Prog I β} (hx : Issues P x) (hf : ∀ a, Issues P (f a)) :
    Issues P (x >>= f) := hx.bind_of_run fun _ a _ => hf a

theorem map {x : Prog I α} {f : α → β} (hx : Issues P x) : Issues P (f <$> x) := by
  intro τ b h
  obtain ⟨a, h, -⟩ := run_map_iff.mp h
  exact hx h

theorem retry {body : Prog I (Option α)} (hb : Issues P body) (fuel : ℕ) :
    Issues P (Prog.retry body fuel) := by
  induction fuel with
  | zero => intro τ a h; cases h
  | succ fuel ih =>
    refine hb.bind fun o => ?_
    cases o with
    | none => exact ih
    | some a => exact pure a

/-! ## Fallible programs -/

open Fallible

theorem lift {x : Prog I α} (hx : Issues P x) :
    Issues P (ExceptT.lift x : Fallible I ε α).run := by
  rw [ExceptT.run_lift]; exact hx.map

theorem mapErr {x : Fallible I ε α} (f : ε → ε') (hx : Issues P x.run) :
    Issues P (Fallible.mapErr f x).run := hx.map

theorem result (r : Except ε α) : Issues P (Fallible.result r : Fallible I ε α).run := pure r

theorem ensure (c : Prop) [Decidable c] (e : ε) :
    Issues P (Fallible.ensure c e : Fallible I ε Unit).run := by
  unfold Fallible.ensure
  split_ifs <;> exact pure _

theorem ret (a : α) : Issues P (Pure.pure a : Fallible I ε α).run := pure _

theorem throw (e : ε) : Issues P (MonadExcept.throw e : Fallible I ε α).run := pure _

theorem seq_of_run {x : Fallible I ε α} {f : α → Fallible I ε β} (hx : Issues P x.run)
    (hf : ∀ τ a, Run x.run τ (.ok a) → Issues P (f a).run) : Issues P (x >>= f).run := by
  rw [ExceptT.run_bind]
  refine hx.bind_of_run fun τ o h => ?_
  cases o with
  | error e => exact pure _
  | ok a => exact hf τ a h

theorem seq {x : Fallible I ε α} {f : α → Fallible I ε β} (hx : Issues P x.run)
    (hf : ∀ a, Issues P (f a).run) : Issues P (x >>= f).run := hx.seq_of_run fun _ a _ => hf a

theorem forM {γ : Type} {f : γ → Fallible I ε Unit} {cs : List γ}
    (hf : ∀ c ∈ cs, Issues P (f c).run) : Issues P (cs.forM f).run := by
  induction cs with
  | nil => exact ret ()
  | cons c cs ih =>
    change Issues P (f c >>= fun _ => cs.forM f).run
    exact .seq (hf c (by simp)) fun _ => ih fun c' hc => hf c' (by simp [hc])

end Issues

/-! ## Errors -/

def FailsWith (Q : ε → Prop) (x : Fallible I ε α) : Prop :=
  ∀ ⦃τ : List (Event I)⦄ ⦃e : ε⦄, Run x.run τ (.error e) → Q e

namespace FailsWith

variable {Q : ε → Prop}

theorem lift (x : Prog I α) : FailsWith Q (ExceptT.lift x : Fallible I ε α) := by
  intro τ e h
  obtain ⟨a, -, ha⟩ := run_lift_iff.mp h
  cases ha

theorem ret (a : α) : FailsWith Q (Pure.pure a : Fallible I ε α) := by
  intro τ e h
  cases (run_fallible_pure_iff.mp h).2

theorem result {r : Except ε α} (hr : ∀ e, r = .error e → Q e) :
    FailsWith Q (Fallible.result r : Fallible I ε α) :=
  fun _ e h => hr e (run_result_iff.mp h).2.symm

theorem ensure {c : Prop} [Decidable c] {e : ε} (he : ¬ c → Q e) :
    FailsWith Q (Fallible.ensure c e : Fallible I ε Unit) := by
  intro τ e' h
  obtain ⟨-, h⟩ := run_ensure_iff.mp h
  split_ifs at h with hc
  obtain rfl := Except.error.inj h
  exact he hc

theorem mapErr {Q : ε' → Prop} {x : Fallible I ε α} {f : ε → ε'}
    (hx : FailsWith (fun e => Q (f e)) x) : FailsWith Q (Fallible.mapErr f x) := by
  intro τ e h
  obtain ⟨o, ho, he⟩ := run_mapErr_iff.mp h
  cases o with
  | error e' => exact Except.error.inj he ▸ hx ho
  | ok a => cases he

theorem of_forall {x : Fallible I ε α} (hQ : ∀ e, Q e) : FailsWith Q x := fun _ e _ => hQ e

theorem seq_of_run {x : Fallible I ε α} {f : α → Fallible I ε β} (hx : FailsWith Q x)
    (hf : ∀ τ a, Run x.run τ (.ok a) → FailsWith Q (f a)) : FailsWith Q (x >>= f) := by
  intro τ e h
  rcases run_fallible_bind_iff.mp h with ⟨e', he, h₁⟩ | ⟨τ₁, a, τ₂, rfl, h₁, h₂⟩
  · exact Except.error.inj he ▸ hx h₁
  · exact hf τ₁ a h₁ h₂

theorem seq {x : Fallible I ε α} {f : α → Fallible I ε β} (hx : FailsWith Q x)
    (hf : ∀ a, FailsWith Q (f a)) : FailsWith Q (x >>= f) := hx.seq_of_run fun _ a _ => hf a

end FailsWith

end Interaction
