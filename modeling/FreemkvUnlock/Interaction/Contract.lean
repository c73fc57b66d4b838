import FreemkvUnlock.Interaction.Prog

/-! # Environment contracts

A contract says which answers an environment may give and how its state moves with them. Under
a contract a program satisfies a postcondition when every run whose answers are allowed ends in
it; the rules below follow the ways programs are put together.
-/

namespace Interaction

variable {I : Interface} {V σ α β ε ε' : Type}

/-- The allowed moves of an environment with states `V`. -/
structure Contract (I : Interface) (V : Type) where
  allows : V → Event I → V → Prop

namespace Contract

variable (C : Contract I V)

inductive Follows : V → List (Event I) → V → Prop
  | nil (v : V) : Follows v [] v
  | cons {u v w : V} {e : Event I} {τ : List (Event I)} :
      C.allows u e v → Follows v τ w → Follows u (e :: τ) w

variable {C} {u v w : V} {τ τ₁ τ₂ : List (Event I)}

theorem follows_nil_iff : C.Follows u [] v ↔ v = u := by
  constructor
  · intro h; cases h; rfl
  · rintro rfl; exact .nil _

theorem follows_cons_iff {e : Event I} :
    C.Follows u (e :: τ) w ↔ ∃ v, C.allows u e v ∧ C.Follows v τ w := by
  constructor
  · intro h; cases h with | cons ha hf => exact ⟨_, ha, hf⟩
  · rintro ⟨v, ha, hf⟩; exact .cons ha hf

theorem follows_append_iff :
    C.Follows u (τ₁ ++ τ₂) w ↔ ∃ v, C.Follows u τ₁ v ∧ C.Follows v τ₂ w := by
  induction τ₁ generalizing u with
  | nil => simp [follows_nil_iff]
  | cons e τ₁ ih =>
    simp only [List.cons_append, follows_cons_iff, ih]
    constructor
    · rintro ⟨v, ha, x, h₁, h₂⟩; exact ⟨x, ⟨v, ha, h₁⟩, h₂⟩
    · rintro ⟨x, ⟨v, ha, h₁⟩, h₂⟩; exact ⟨v, ha, x, h₁, h₂⟩

theorem Follows.of_forall (h : ∀ e ∈ τ, C.allows u e u) : C.Follows u τ u := by
  induction τ with
  | nil => exact .nil u
  | cons e τ ih =>
    rw [List.forall_mem_cons] at h
    exact .cons h.1 (ih h.2)

theorem Follows.mono {C' : Contract I V} (hC : ∀ u e v, C.allows u e v → C'.allows u e v)
    (h : C.Follows u τ v) : C'.Follows u τ v := by
  induction h with
  | nil => exact .nil _
  | cons ha _ ih => exact .cons (hC _ _ _ ha) ih

/-! ## Postconditions -/

variable (C) in
/-- Every run of `x` that starts in `P` and is allowed ends in `Q`. -/
def Ensures (P : V → Prop) (x : Prog I α) (Q : α → V → Prop) : Prop :=
  ∀ ⦃u τ a v⦄, P u → Run x τ a → C.Follows u τ v → Q a v

namespace Ensures

variable {P P' : V → Prop} {Q Q' R : α → V → Prop} {x : Prog I α}

theorem pure {a : α} (h : ∀ v, P v → Q a v) : C.Ensures P (Pure.pure a : Prog I α) Q := by
  intro u τ b v hP hr hf
  obtain ⟨rfl, rfl⟩ := run_pure_iff.mp hr
  obtain rfl := follows_nil_iff.mp hf
  exact h _ hP

theorem ask {o : I.Op} {Q : I.Answer o → V → Prop}
    (h : ∀ u r v, P u → C.allows u ⟨o, r⟩ v → Q r v) : C.Ensures P (Prog.ask o) Q := by
  intro u τ r w hP hr hf
  rw [run_ask_iff.mp hr] at hf
  obtain ⟨v, ha, hf⟩ := follows_cons_iff.mp hf
  obtain rfl := follows_nil_iff.mp hf
  exact h u r _ hP ha

theorem bind {f : α → Prog I β} {Q : β → V → Prop} (hx : C.Ensures P x R)
    (hf : ∀ a, C.Ensures (R a) (f a) Q) : C.Ensures P (x >>= f) Q := by
  intro u τ b w hP hr hfol
  obtain ⟨τ₁, a, τ₂, rfl, h₁, h₂⟩ := run_bind_iff.mp hr
  obtain ⟨v, f₁, f₂⟩ := follows_append_iff.mp hfol
  exact hf a (hx hP h₁ f₁) h₂ f₂

theorem map {f : α → β} {Q : β → V → Prop} (hx : C.Ensures P x fun a => Q (f a)) :
    C.Ensures P (f <$> x) Q := by
  intro u τ b w hP hr hfol
  obtain ⟨a, h, rfl⟩ := run_map_iff.mp hr
  exact hx hP h hfol

theorem mono (hx : C.Ensures P x Q) (hP : ∀ v, P' v → P v) (hQ : ∀ a v, Q a v → Q' a v) :
    C.Ensures P' x Q' := fun _ _ _ _ h hr hf => hQ _ _ (hx (hP _ h) hr hf)

theorem post (hx : C.Ensures P x Q) (hQ : ∀ a v, Q a v → Q' a v) : C.Ensures P x Q' :=
  hx.mono (fun _ => id) hQ

/-- What holds of the program's results in any environment. -/
theorem of_run {S : α → Prop} (hS : ∀ τ a, Run x τ a → S a) (hx : C.Ensures P x Q) :
    C.Ensures P x fun a v => S a ∧ Q a v :=
  fun _ τ a _ h hr hf => ⟨hS τ a hr, hx h hr hf⟩

theorem static {S : Prop} (h : S → C.Ensures P x Q) : C.Ensures (fun v => S ∧ P v) x Q :=
  fun _ _ _ _ hP hr hf => h hP.1 hP.2 hr hf

theorem anti {C' : Contract I V} (hC : ∀ u e v, C'.allows u e v → C.allows u e v)
    (hx : C.Ensures P x Q) : C'.Ensures P x Q :=
  fun _ _ _ _ hP hr hf => hx hP hr (hf.mono hC)

/-- A run each of whose answers is the only one allowed is the only run. -/
theorem of_forced {a : α} (h : Run x τ a)
    (hforced : ∀ e ∈ τ, ∀ r v, C.allows u ⟨e.1, r⟩ v → r = e.2 ∧ v = u) :
    C.Ensures (· = u) x fun b v => b = a ∧ v = u := by
  induction h with
  | pure a => exact pure fun v hv => ⟨rfl, hv⟩
  | @call o k r τ a h ih =>
    rintro _ σ b w rfl hrun hf
    obtain ⟨r', σ', rfl, hrest⟩ := run_call_iff.mp hrun
    obtain ⟨v, ha, hfrest⟩ := follows_cons_iff.mp hf
    obtain ⟨rfl, rfl⟩ := hforced ⟨o, r⟩ List.mem_cons_self r' v ha
    exact ih (fun e he => hforced e (List.mem_cons_of_mem _ he)) rfl hrest hfrest

theorem retry {body : Prog I (Option α)}
    (hb : C.Ensures P body fun o v => o.elim (P v) fun a => Q a v) (fuel : ℕ) :
    C.Ensures P (Prog.retry body fuel) Q := by
  induction fuel with
  | zero => intro u τ a v _ hr; cases hr
  | succ fuel ih =>
    refine hb.bind fun o => ?_
    cases o with
    | none => exact ih
    | some a => exact pure fun _ h => h

end Ensures

/-! ## Fallible programs -/

variable (C) in
def Succeeds (P : V → Prop) (x : Fallible I ε α) (Q : α → V → Prop) : Prop :=
  C.Ensures P x.run fun r v => ∃ a, r = .ok a ∧ Q a v

namespace Succeeds

variable {P P' : V → Prop} {Q Q' R : α → V → Prop} {x : Fallible I ε α}

theorem ret {a : α} (h : ∀ v, P v → Q a v) : C.Succeeds P (Pure.pure a : Fallible I ε α) Q :=
  Ensures.pure fun v hv => ⟨a, rfl, h v hv⟩

theorem lift {x : Prog I α} (hx : C.Ensures P x Q) :
    C.Succeeds P (ExceptT.lift x : Fallible I ε α) Q := by
  unfold Succeeds
  rw [ExceptT.run_lift]
  exact .map (hx.post fun a v h => ⟨a, rfl, h⟩)

theorem result {r : Except ε α} (h : ∀ v, P v → ∃ a, r = .ok a ∧ Q a v) :
    C.Succeeds P (Fallible.result r : Fallible I ε α) Q := Ensures.pure h

theorem ensure {c : Prop} [Decidable c] {e : ε} (h : ∀ v, P v → c) :
    C.Succeeds P (Fallible.ensure c e : Fallible I ε Unit) fun _ => P := by
  intro u τ r v hP hr hf
  obtain ⟨rfl, rfl⟩ := run_ensure_iff.mp hr
  obtain rfl := follows_nil_iff.mp hf
  exact ⟨(), if_pos (h _ hP), hP⟩

theorem mapErr {f : ε → ε'} (hx : C.Succeeds P x Q) :
    C.Succeeds P (Fallible.mapErr f x) Q :=
  .map (Ensures.post hx fun _ _ ⟨a, hr, h⟩ => ⟨a, by rw [hr]; rfl, h⟩)

theorem then_ensures {f : α → Fallible I ε β} {Q : Except ε β → V → Prop} (hx : C.Succeeds P x R)
    (hf : ∀ a, C.Ensures (R a) (f a).run Q) : C.Ensures P (x >>= f).run Q := by
  rw [ExceptT.run_bind]
  refine Ensures.bind hx fun r => ?_
  intro u τ o v hP hr hfol
  obtain ⟨a, rfl, ha⟩ := hP
  exact hf a ha hr hfol

theorem seq {f : α → Fallible I ε β} {Q : β → V → Prop} (hx : C.Succeeds P x R)
    (hf : ∀ a, C.Succeeds (R a) (f a) Q) : C.Succeeds P (x >>= f) Q := hx.then_ensures hf

theorem static {S : Prop} (h : S → C.Succeeds P x Q) : C.Succeeds (fun v => S ∧ P v) x Q :=
  Ensures.static h

theorem seq_eq {f : α → Fallible I ε β} {Q : β → V → Prop} {R : V → Prop} {a : α}
    (hx : C.Succeeds P x fun b v => b = a ∧ R v) (hf : C.Succeeds R (f a) Q) :
    C.Succeeds P (x >>= f) Q :=
  hx.seq fun _ => .static fun hb => hb ▸ hf

theorem anti {C' : Contract I V} (hC : ∀ u e v, C'.allows u e v → C.allows u e v)
    (hx : C.Succeeds P x Q) : C'.Succeeds P x Q := Ensures.anti hC hx

theorem of_forced {a : α} (h : Run x.run τ (.ok a))
    (hforced : ∀ e ∈ τ, ∀ r v, C.allows u ⟨e.1, r⟩ v → r = e.2 ∧ v = u) :
    C.Succeeds (· = u) x fun b v => b = a ∧ v = u :=
  (Ensures.of_forced h hforced).post fun _ _ ⟨hr, hv⟩ => ⟨a, hr, rfl, hv⟩

theorem forM {γ : Type} {f : γ → Fallible I ε Unit} {cs : List γ}
    (hf : ∀ c ∈ cs, C.Succeeds P (f c) fun _ => P) : C.Succeeds P (cs.forM f) fun _ => P := by
  induction cs with
  | nil => exact .ret fun _ => id
  | cons c cs ih =>
    change C.Succeeds P (f c >>= fun _ => cs.forM f) fun _ => P
    exact .seq (hf c List.mem_cons_self) fun _ => ih fun c' hc => hf c' (List.mem_cons_of_mem c hc)

theorem post (hx : C.Succeeds P x Q) (hQ : ∀ a v, Q a v → Q' a v) : C.Succeeds P x Q' :=
  Ensures.post hx fun _ _ ⟨a, hr, h⟩ => ⟨a, hr, hQ a _ h⟩

theorem ensures (hx : C.Succeeds P x Q) :
    C.Ensures P x.run fun r v => ∃ a, r = .ok a ∧ Q a v := hx

theorem pre (hx : C.Succeeds P x Q) (hP : ∀ v, P' v → P v) : C.Succeeds P' x Q :=
  Ensures.mono hx hP fun _ _ => id

theorem of_run {S : α → Prop} (hS : ∀ τ a, Run x.run τ (.ok a) → S a) (hx : C.Succeeds P x Q) :
    C.Succeeds P x fun a v => S a ∧ Q a v := by
  intro u τ r v hP hr hf
  obtain ⟨a, rfl, h⟩ := hx hP hr hf
  exact ⟨a, rfl, hS τ a hr, h⟩

end Succeeds

/-! ## Handlers that keep a contract -/

variable (C) in
/-- A handler whose every answer is allowed, seen through `view`. -/
def KeptBy (h : Handler I σ) (view : σ → V) : Prop :=
  ∀ o s, C.allows (view s) ⟨o, (h o s).1⟩ (view (h o s).2)

theorem KeptBy.follows {h : Handler I σ} {view : σ → V} (hk : C.KeptBy h view) {x : Prog I α}
    {s s' : σ} {a : α} (he : exec h x s = some (a, τ, s')) : C.Follows (view s) τ (view s') := by
  induction x generalizing s τ with
  | pure b =>
    simp only [exec, Option.some.injEq, Prod.mk.injEq] at he
    obtain ⟨-, rfl, rfl⟩ := he
    exact .nil _
  | call o k ih =>
    simp only [exec, Option.map_eq_some_iff, Prod.exists, Prod.mk.injEq] at he
    obtain ⟨a', τ', s'', hk', rfl, rfl, rfl⟩ := he
    exact .cons (hk o s) (ih _ hk')
  | diverge => simp [exec] at he

theorem Ensures.of_exec {h : Handler I σ} {view : σ → V} {P : V → Prop} {x : Prog I α}
    {Q : α → V → Prop} {s s' : σ} {a : α} (hx : C.Ensures P x Q) (hk : C.KeptBy h view)
    (hP : P (view s)) (he : exec h x s = some (a, τ, s')) : Q a (view s') :=
  hx hP (run_of_exec he) (hk.follows he)

end Contract

end Interaction
