import FreemkvUnlock.Interaction.Trace

/-! # Fatal events

Some answers leave a program nothing to do but to report them. A program halts on them when its
result reports a fatal event exactly when one came, and when nothing but an allowed tail follows
that event. Both directions are carried along, so that an error that is swallowed and one that
is made up are excluded by the same rules.
-/

namespace Interaction

variable {I : Interface} {α β ε ε' : Type} {F : Event I → Prop}
  {T T' : List (Event I) → Prop} {R : α → Prop} {τ : List (Event I)}

/-- The first fatal event of a trace and what follows it. -/
def EndsFatally (F : Event I → Prop) (T : List (Event I) → Prop) (τ : List (Event I)) : Prop :=
  ∃ pre e post, τ = pre ++ e :: post ∧ (∀ e' ∈ pre, ¬ F e') ∧ F e ∧ T post

/-- Results in `R` come from runs that end fatally, other results from runs without a fatal
event. -/
def HaltsOn (F : Event I → Prop) (T : List (Event I) → Prop) (R : α → Prop) (x : Prog I α) : Prop :=
  ∀ ⦃τ a⦄, Run x τ a → R a ∧ EndsFatally F T τ ∨ ¬ R a ∧ ∀ e ∈ τ, ¬ F e

/-- Nothing at all. -/
def NoTail (τ : List (Event I)) : Prop := τ = []

/-- At most one event, one of `C`. -/
def AtMostOne (C : Event I → Prop) (τ : List (Event I)) : Prop := τ = [] ∨ ∃ e, τ = [e] ∧ C e

def AllOf (S : Event I → Prop) (τ : List (Event I)) : Prop := ∀ e ∈ τ, S e

def Fails (p : ε → Prop) : Except ε α → Prop
  | .error e => p e
  | .ok _ => False

instance instDecidableFails {p : ε → Prop} [DecidablePred p] :
    DecidablePred (Fails p : Except ε α → Prop)
  | .error e => inferInstanceAs (Decidable (p e))
  | .ok _ => inferInstanceAs (Decidable False)

@[simp] theorem fails_error {p : ε → Prop} {e : ε} : Fails p (.error e : Except ε α) ↔ p e :=
  Iff.rfl

@[simp] theorem not_fails_ok {p : ε → Prop} {a : α} : ¬ Fails p (.ok a : Except ε α) := id

theorem EndsFatally.mono (h : EndsFatally F T τ) (hT : ∀ τ, T τ → T' τ) : EndsFatally F T' τ := by
  obtain ⟨pre, e, post, rfl, hpre, he, ht⟩ := h
  exact ⟨pre, e, post, rfl, hpre, he, hT _ ht⟩

theorem EndsFatally.exists_mem (h : EndsFatally F T τ) : ∃ e ∈ τ, F e := by
  obtain ⟨pre, e, post, rfl, -, he, -⟩ := h
  exact ⟨e, by simp, he⟩

theorem EndsFatally.prepend {ρ : List (Event I)} (hρ : ∀ e ∈ ρ, ¬ F e) (h : EndsFatally F T τ) :
    EndsFatally F T (ρ ++ τ) := by
  obtain ⟨pre, e, post, rfl, hpre, he, ht⟩ := h
  refine ⟨ρ ++ pre, e, post, by simp, fun e' he' => ?_, he, ht⟩
  rcases List.mem_append.mp he' with he' | he'
  · exact hρ e' he'
  · exact hpre e' he'

/-- A tail without fatal events makes the fatal event the only one. -/
theorem EndsFatally.tail_of_split (hT : ∀ τ, T τ → ∀ e ∈ τ, ¬ F e) (h : EndsFatally F T τ)
    {pre post : List (Event I)} {e : Event I} (hτ : τ = pre ++ e :: post) (he : F e) : T post := by
  obtain ⟨pre', e', post', rfl, hpre, -, ht⟩ := h
  rcases split_cases hτ with ⟨-, -, rfl⟩ | ⟨mid, rfl, -⟩ | ⟨mid, -, rfl⟩
  · exact ht
  · exact absurd he (hpre e (by simp))
  · exact absurd he (hT _ ht e (by simp))

namespace HaltsOn

variable {x : Prog I α}

theorem mono (hx : HaltsOn F T R x) (hT : ∀ τ, T τ → T' τ) : HaltsOn F T' R x := by
  intro τ a h
  exact (hx h).imp_left fun ⟨hR, hτ⟩ => ⟨hR, hτ.mono hT⟩

theorem result_iff (hx : HaltsOn F T R x) {a : α} (h : Run x τ a) : R a ↔ ∃ e ∈ τ, F e := by
  rcases hx h with ⟨hR, hτ⟩ | ⟨hR, hτ⟩
  · exact iff_of_true hR hτ.exists_mem
  · exact iff_of_false hR fun ⟨e, he, hF⟩ => hτ e he hF

theorem tail (hx : HaltsOn F T R x) (hT : ∀ τ, T τ → ∀ e ∈ τ, ¬ F e) {a : α} (h : Run x τ a)
    {pre post : List (Event I)} {e : Event I} (hτ : τ = pre ++ e :: post) (he : F e) : T post := by
  rcases hx h with ⟨-, hend⟩ | ⟨-, hclean⟩
  · exact hend.tail_of_split hT hτ he
  · exact absurd he (hclean e (by simp [hτ]))

theorem pure {a : α} (h : ¬ R a) : HaltsOn F T R (Pure.pure a : Prog I α) := by
  intro τ b hr
  obtain ⟨rfl, rfl⟩ := run_pure_iff.mp hr
  exact .inr ⟨h, nofun⟩

theorem ask {o : I.Op} {R : I.Answer o → Prop} (h : ∀ r, R r ↔ F ⟨o, r⟩) (hT : T []) :
    HaltsOn F T R (Prog.ask o) := by
  intro τ r hr
  obtain rfl := run_ask_iff.mp hr
  by_cases hF : F ⟨o, r⟩
  · exact .inl ⟨(h r).mpr hF, [], _, [], rfl, nofun, hF, hT⟩
  · exact .inr ⟨fun hR => hF ((h r).mp hR), by simpa using hF⟩

theorem of_issues (hx : Issues (fun e => ¬ F e) x) (hR : ∀ τ a, Run x τ a → ¬ R a) :
    HaltsOn F T R x := fun τ a h => .inr ⟨hR τ a h, hx h⟩

/-- After a fatal result nothing is called any more and the result stays fatal. -/
theorem bind {R' : β → Prop} {f : α → Prog I β} (hx : HaltsOn F T R x)
    (hend : ∀ a τ b, R a → Run (f a) τ b → τ = [] ∧ R' b)
    (hf : ∀ a, ¬ R a → HaltsOn F T R' (f a)) : HaltsOn F T R' (x >>= f) := by
  intro τ b h
  obtain ⟨τ₁, a, τ₂, rfl, h₁, h₂⟩ := run_bind_iff.mp h
  rcases hx h₁ with ⟨hR, hτ⟩ | ⟨hR, hτ⟩
  · obtain ⟨rfl, hb⟩ := hend a τ₂ b hR h₂
    exact .inl ⟨hb, by simpa using hτ⟩
  · rcases hf a hR h₂ with ⟨hb, hτ₂⟩ | ⟨hb, hτ₂⟩
    · exact .inl ⟨hb, hτ₂.prepend hτ⟩
    · refine .inr ⟨hb, fun e he => ?_⟩
      rcases List.mem_append.mp he with he | he
      · exact hτ e he
      · exact hτ₂ e he

/-- After a fatal result only events of the tail come and the result stays fatal. -/
theorem bind_tail {S : Event I → Prop} {R' : β → Prop} {f : α → Prog I β}
    (hx : HaltsOn F (AllOf S) R x) (hend : ∀ a τ b, R a → Run (f a) τ b → AllOf S τ ∧ R' b)
    (hf : ∀ a, ¬ R a → HaltsOn F (AllOf S) R' (f a)) : HaltsOn F (AllOf S) R' (x >>= f) := by
  intro τ b h
  obtain ⟨τ₁, a, τ₂, rfl, h₁, h₂⟩ := run_bind_iff.mp h
  rcases hx h₁ with ⟨hR, pre, e, post, rfl, hpre, he, hpost⟩ | ⟨hR, hτ⟩
  · obtain ⟨hτ₂, hb⟩ := hend a τ₂ b hR h₂
    exact .inl ⟨hb, pre, e, post ++ τ₂, by simp, hpre, he, List.forall_mem_append.mpr ⟨hpost, hτ₂⟩⟩
  · rcases hf a hR h₂ with ⟨hb, hτ₂⟩ | ⟨hb, hτ₂⟩
    · exact .inl ⟨hb, hτ₂.prepend hτ⟩
    · exact .inr ⟨hb, List.forall_mem_append.mpr ⟨hτ, hτ₂⟩⟩

/-- A last part that runs whatever came before is the tail. -/
theorem closing {R' : β → Prop} {f : α → Prog I β} (hx : HaltsOn F NoTail R x)
    (hT : ∀ τ, T τ → ∀ e ∈ τ, ¬ F e)
    (hf : ∀ a τ b, Run (f a) τ b → (R' b ↔ R a) ∧ T τ) : HaltsOn F T R' (x >>= f) := by
  intro τ b h
  obtain ⟨τ₁, a, τ₂, rfl, h₁, h₂⟩ := run_bind_iff.mp h
  obtain ⟨hR', ht⟩ := hf a τ₂ b h₂
  rcases hx h₁ with ⟨hR, pre, e, post, rfl, hpre, he, rfl⟩ | ⟨hR, hτ⟩
  · exact .inl ⟨hR'.mpr hR, pre, e, τ₂, by simp, hpre, he, ht⟩
  · refine .inr ⟨fun hb => hR (hR'.mp hb), fun e he => ?_⟩
    rcases List.mem_append.mp he with he | he
    · exact hτ e he
    · exact hT τ₂ ht e he

theorem map {R' : β → Prop} {f : α → β} (hx : HaltsOn F T R x) (hf : ∀ a, R' (f a) ↔ R a) :
    HaltsOn F T R' (f <$> x) := by
  intro τ b h
  obtain ⟨a, ha, rfl⟩ := run_map_iff.mp h
  rw [hf]
  exact hx ha

/-! ## Fallible programs -/

open Fallible

variable {p : ε → Prop}

theorem ret (a : α) : HaltsOn F T (Fails p) (Pure.pure a : Fallible I ε α).run := pure id

theorem throw {e : ε} (he : ¬ p e) :
    HaltsOn F T (Fails p) (MonadExcept.throw e : Fallible I ε α).run := pure he

theorem result {r : Except ε α} (hr : ∀ e, r = .error e → ¬ p e) :
    HaltsOn F T (Fails p) (Fallible.result r : Fallible I ε α).run :=
  pure (match r, hr with
    | .error e, hr => hr e rfl
    | .ok _, _ => id)

theorem okOr {x : Option α} {e : ε} (he : ¬ p e) :
    HaltsOn F T (Fails p) (Fallible.result (Fallible.okOr x e) : Fallible I ε α).run :=
  result (match x with
    | none => fun _ h => Except.error.inj h ▸ he
    | some _ => nofun)

theorem ensure {c : Prop} [Decidable c] {e : ε} (he : ¬ p e) :
    HaltsOn F T (Fails p) (Fallible.ensure c e : Fallible I ε Unit).run := by
  unfold Fallible.ensure
  split_ifs
  · exact ret ()
  · exact throw he

theorem lift {x : Prog I α} (hx : Issues (fun e => ¬ F e) x) :
    HaltsOn F T (Fails p) (ExceptT.lift x : Fallible I ε α).run := by
  refine of_issues (.lift hx) fun τ r h => ?_
  obtain ⟨a, -, rfl⟩ := run_lift_iff.mp h
  exact id

theorem askResult {o : I.Op} {f : I.Answer o → Except ε α}
    (h : ∀ r, Fails p (f r) ↔ F ⟨o, r⟩) (hT : T []) :
    HaltsOn F T (Fails p)
      (ExceptT.lift (Prog.ask o) >>= fun a => Fallible.result (f a) : Fallible I ε α).run := by
  intro τ r hr
  obtain ⟨a, rfl, rfl⟩ := run_ask_result_iff.mp hr
  by_cases hF : F ⟨o, a⟩
  · exact .inl ⟨(h a).mpr hF, [], _, [], rfl, nofun, hF, hT⟩
  · exact .inr ⟨fun hR => hF ((h a).mp hR), by simpa using hF⟩

theorem mapErr {p' : ε' → Prop} {f : ε → ε'} {x : Fallible I ε α}
    (hx : HaltsOn F T (Fails p) x.run) (hf : ∀ e, p' (f e) ↔ p e) :
    HaltsOn F T (Fails p') (Fallible.mapErr f x).run :=
  map hx fun r => by
    rcases r with e | a
    · exact hf e
    · exact Iff.rfl

theorem seq_of_run {x : Fallible I ε α} {f : α → Fallible I ε β}
    (hx : HaltsOn F T (Fails p) x.run)
    (hf : ∀ τ a, Run x.run τ (.ok a) → HaltsOn F T (Fails p) (f a).run) :
    HaltsOn F T (Fails p) (x >>= f).run := by
  intro τ r h
  rcases run_fallible_bind_iff.mp h with ⟨e, rfl, h₁⟩ | ⟨τ₁, a, τ₂, rfl, h₁, h₂⟩
  · exact hx h₁
  · rcases hx h₁ with ⟨hR, -⟩ | ⟨-, hτ⟩
    · exact hR.elim
    · rcases hf τ₁ a h₁ h₂ with ⟨hb, hτ₂⟩ | ⟨hb, hτ₂⟩
      · exact .inl ⟨hb, hτ₂.prepend hτ⟩
      · refine .inr ⟨hb, fun e he => ?_⟩
        rcases List.mem_append.mp he with he | he
        · exact hτ e he
        · exact hτ₂ e he

theorem seq {x : Fallible I ε α} {f : α → Fallible I ε β} (hx : HaltsOn F T (Fails p) x.run)
    (hf : ∀ a, HaltsOn F T (Fails p) (f a).run) : HaltsOn F T (Fails p) (x >>= f).run :=
  hx.seq_of_run fun _ a _ => hf a

theorem forM {γ : Type} {f : γ → Fallible I ε Unit} (hf : ∀ c, HaltsOn F T (Fails p) (f c).run)
    (cs : List γ) : HaltsOn F T (Fails p) (cs.forM f).run := by
  induction cs with
  | nil => exact ret ()
  | cons c cs ih =>
    change HaltsOn F T (Fails p) (f c >>= fun _ => cs.forM f).run
    exact .seq (hf c) fun _ => ih

/-- A part whose failure is looked at: a fatal one must end the program. -/
theorem lift_seq {γ : Type} {R : γ → Prop} {y : Prog I γ} {f : γ → Fallible I ε β}
    (hy : HaltsOn F T R y)
    (hend : ∀ a τ b, R a → Run (f a).run τ b → τ = [] ∧ Fails p b)
    (hf : ∀ a, ¬ R a → HaltsOn F T (Fails p) (f a).run) :
    HaltsOn F T (Fails p) (ExceptT.lift y >>= f).run := by
  have heq : (ExceptT.lift y >>= f).run = y >>= fun a => (f a).run := by
    simp [ExceptT.run_bind]
  rw [heq]
  exact hy.bind hend hf

end HaltsOn

end Interaction
