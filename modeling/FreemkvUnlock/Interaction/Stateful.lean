import FreemkvUnlock.Interaction.Halting

/-! # Programs with a state

A driver keeps a state of its own between calls. An error leaves the state as it was when the
error came up, so what went before is not forgotten.
-/

namespace Interaction

variable {I : Interface} {σ α β ε ε' : Type}

/-- A program that may fail and carries a state that its failures keep. -/
abbrev Stateful (I : Interface) (σ ε α : Type) : Type := ExceptT ε (StateT σ (Prog I)) α

namespace Stateful

/-- The program from a given state: what it ends with and the state it leaves. -/
def prog (x : Stateful I σ ε α) (s : σ) : Prog I (Except ε α × σ) := x.run.run s

def lift (x : Fallible I ε α) : Stateful I σ ε α := ExceptT.mk (monadLift x.run : StateT σ _ _)

/-- A part whose failure is looked at instead of passed on. -/
def attempt (x : Stateful I σ ε α) : Stateful I σ ε' (Except ε α) := ExceptT.mk (.ok <$> x.run)

def mapErr (f : ε → ε') (x : Stateful I σ ε α) : Stateful I σ ε' α :=
  ExceptT.mk (Except.mapError f <$> x.run)

def diverge : Stateful I σ ε α := ExceptT.mk fun _ => Prog.diverge

/-- Repeat `body` until it yields a value, at most `fuel` times. -/
def retry (body : Stateful I σ ε (Option α)) : ℕ → Stateful I σ ε α
  | 0 => diverge
  | fuel + 1 => do
    match ← body with
    | some a => pure a
    | none => retry body fuel

/-- A program that starts with its own state and forgets it at the end. -/
def eval (x : Stateful I σ ε α) (s : σ) : Fallible I ε α := ExceptT.mk (Prod.fst <$> prog x s)

section Prog

variable {s s' : σ}

theorem prog_pure (a : α) : prog (pure a : Stateful I σ ε α) s = pure (.ok a, s) := rfl

theorem prog_throw (e : ε) : prog (throw e : Stateful I σ ε α) s = pure (.error e, s) := rfl

theorem prog_get : prog (get : Stateful I σ ε σ) s = pure (.ok s, s) := rfl

theorem prog_set : prog (set s' : Stateful I σ ε PUnit) s = pure (.ok ⟨⟩, s') := rfl

theorem prog_bind (x : Stateful I σ ε α) (f : α → Stateful I σ ε β) :
    prog (x >>= f) s = prog x s >>= fun p => match p.1 with
      | .ok a => prog (f a) p.2
      | .error e => pure (.error e, p.2) := by
  unfold prog
  rw [ExceptT.run_bind, StateT.run_bind]
  congr 1
  funext p
  rcases p with ⟨_ | _, _⟩ <;> rfl

theorem prog_lift (x : Fallible I ε α) :
    prog (lift x : Stateful I σ ε α) s = (fun r => (r, s)) <$> x.run := rfl

theorem prog_attempt (x : Stateful I σ ε α) :
    prog (attempt x : Stateful I σ ε' _) s = (fun p => (.ok p.1, p.2)) <$> prog x s := rfl

theorem prog_mapErr (f : ε → ε') (x : Stateful I σ ε α) :
    prog (mapErr f x) s = (fun p => (p.1.mapError f, p.2)) <$> prog x s := rfl

end Prog

/-! ## Runs -/

section Runs

variable {s s' : σ} {τ : List (Event I)}

theorem run_pure_iff {a : α} {r : Except ε α} :
    Run (prog (pure a : Stateful I σ ε α) s) τ (r, s') ↔ τ = [] ∧ r = .ok a ∧ s' = s := by
  rw [prog_pure, Interaction.run_pure_iff, Prod.mk.injEq]

theorem run_throw_iff {e : ε} {r : Except ε α} :
    Run (prog (throw e : Stateful I σ ε α) s) τ (r, s') ↔ τ = [] ∧ r = .error e ∧ s' = s := by
  rw [prog_throw, Interaction.run_pure_iff, Prod.mk.injEq]

theorem run_lift_iff {x : Fallible I ε α} {r : Except ε α} :
    Run (prog (lift x : Stateful I σ ε α) s) τ (r, s') ↔ Run x.run τ r ∧ s' = s := by
  rw [prog_lift, run_map_iff]
  constructor
  · rintro ⟨r', h, he⟩
    obtain ⟨rfl, rfl⟩ := Prod.mk.inj he
    exact ⟨h, rfl⟩
  · rintro ⟨h, rfl⟩
    exact ⟨r, h, rfl⟩

theorem run_attempt_iff {x : Stateful I σ ε α} {r : Except ε' (Except ε α)} :
    Run (prog (attempt x : Stateful I σ ε' _) s) τ (r, s') ↔
      ∃ r', r = .ok r' ∧ Run (prog x s) τ (r', s') := by
  rw [prog_attempt, run_map_iff]
  constructor
  · rintro ⟨⟨r', t⟩, h, he⟩
    obtain ⟨rfl, rfl⟩ := Prod.mk.inj he
    exact ⟨r', rfl, h⟩
  · rintro ⟨r', rfl, h⟩
    exact ⟨_, h, rfl⟩

theorem run_mapErr_iff {f : ε → ε'} {x : Stateful I σ ε α} {r : Except ε' α} :
    Run (prog (mapErr f x) s) τ (r, s') ↔ ∃ r', r = r'.mapError f ∧ Run (prog x s) τ (r', s') := by
  rw [prog_mapErr, run_map_iff]
  constructor
  · rintro ⟨⟨r', t⟩, h, he⟩
    obtain ⟨rfl, rfl⟩ := Prod.mk.inj he
    exact ⟨r', rfl, h⟩
  · rintro ⟨r', rfl, h⟩
    exact ⟨_, h, rfl⟩

theorem run_bind_iff {x : Stateful I σ ε α} {f : α → Stateful I σ ε β} {r : Except ε β} :
    Run (prog (x >>= f) s) τ (r, s') ↔
      (∃ e, r = .error e ∧ Run (prog x s) τ (.error e, s')) ∨
      ∃ τ₁ a t τ₂, τ = τ₁ ++ τ₂ ∧ Run (prog x s) τ₁ (.ok a, t) ∧
        Run (prog (f a) t) τ₂ (r, s') := by
  rw [prog_bind, Interaction.run_bind_iff]
  constructor
  · rintro ⟨τ₁, ⟨o, t⟩, τ₂, rfl, h₁, h₂⟩
    cases o with
    | error e =>
      obtain ⟨rfl, he⟩ := Interaction.run_pure_iff.mp h₂
      obtain ⟨rfl, rfl⟩ := Prod.mk.inj he
      exact .inl ⟨e, rfl, by simpa using h₁⟩
    | ok a => exact .inr ⟨τ₁, a, t, τ₂, rfl, h₁, h₂⟩
  · rintro (⟨e, rfl, h⟩ | ⟨τ₁, a, t, τ₂, rfl, h₁, h₂⟩)
    · exact ⟨τ, _, [], by simp, h, Interaction.run_pure_iff.mpr ⟨rfl, rfl⟩⟩
    · exact ⟨τ₁, (.ok a, t), τ₂, rfl, h₁, h₂⟩

theorem run_get_bind_iff {f : σ → Stateful I σ ε β} {r : Except ε β} :
    Run (prog (get >>= f) s) τ (r, s') ↔ Run (prog (f s) s) τ (r, s') := Iff.rfl

theorem run_set_bind_iff {t : σ} {f : PUnit → Stateful I σ ε β} {r : Except ε β} :
    Run (prog (set t >>= f) s) τ (r, s') ↔ Run (prog (f ⟨⟩) t) τ (r, s') := Iff.rfl

theorem run_attempt_bind_iff {x : Stateful I σ ε α} {f : Except ε α → Stateful I σ ε' β}
    {r : Except ε' β} :
    Run (prog (attempt x >>= f) s) τ (r, s') ↔ ∃ τ₁ r' t τ₂, τ = τ₁ ++ τ₂ ∧
      Run (prog x s) τ₁ (r', t) ∧ Run (prog (f r') t) τ₂ (r, s') := by
  rw [run_bind_iff]
  constructor
  · rintro (⟨e, rfl, h⟩ | ⟨τ₁, r', t, τ₂, rfl, h₁, h₂⟩)
    · obtain ⟨_, hr, -⟩ := run_attempt_iff.mp h
      cases hr
    · obtain ⟨_, hr, h₁⟩ := run_attempt_iff.mp h₁
      obtain rfl := Except.ok.inj hr
      exact ⟨τ₁, r', t, τ₂, rfl, h₁, h₂⟩
  · rintro ⟨τ₁, r', t, τ₂, rfl, h₁, h₂⟩
    exact .inr ⟨τ₁, r', t, τ₂, rfl, run_attempt_iff.mpr ⟨r', rfl, h₁⟩, h₂⟩

/-- A completed loop ends with the iteration that yielded a value or failed; before it came
iterations that yielded none. -/
theorem run_retry_succ_iff {body : Stateful I σ ε (Option α)} {fuel : ℕ} {r : Except ε α} :
    Run (prog (retry body (fuel + 1)) s) τ (r, s') ↔
      (∃ e, r = .error e ∧ Run (prog body s) τ (.error e, s')) ∨
      (∃ a, r = .ok a ∧ Run (prog body s) τ (.ok (some a), s')) ∨
      ∃ τ₁ t τ₂, τ = τ₁ ++ τ₂ ∧ Run (prog body s) τ₁ (.ok none, t) ∧
        Run (prog (retry body fuel) t) τ₂ (r, s') := by
  rw [retry, run_bind_iff]
  constructor
  · rintro (h | ⟨τ₁, o, t, τ₂, rfl, h₁, h₂⟩)
    · exact .inl h
    · cases o with
      | none => exact .inr (.inr ⟨τ₁, t, τ₂, rfl, h₁, h₂⟩)
      | some a =>
        obtain ⟨rfl, rfl, rfl⟩ := run_pure_iff.mp h₂
        exact .inr (.inl ⟨a, rfl, by simpa using h₁⟩)
  · rintro (h | ⟨a, rfl, h⟩ | ⟨τ₁, t, τ₂, rfl, h₁, h₂⟩)
    · exact .inl h
    · exact .inr ⟨τ, some a, s', [], by simp, h, run_pure_iff.mpr ⟨rfl, rfl, rfl⟩⟩
    · exact .inr ⟨τ₁, none, t, τ₂, rfl, h₁, h₂⟩

theorem not_run_diverge {p : Except ε α × σ} :
    ¬ Run (prog (diverge : Stateful I σ ε α) s) τ p := nofun

theorem run_eval_iff {x : Stateful I σ ε α} {r : Except ε α} :
    Run (eval x s).run τ r ↔ ∃ t, Run (prog x s) τ (r, t) := by
  change Run (Prod.fst <$> prog x s) τ r ↔ _
  rw [run_map_iff]
  constructor
  · rintro ⟨⟨r', t⟩, h, rfl⟩; exact ⟨t, h⟩
  · rintro ⟨t, h⟩; exact ⟨_, h, rfl⟩

end Runs

/-! ## Rules

The rules for sequences and loops; the other ways to put programs together are maps of the
underlying program and need no rule of their own.
-/

section Rules

variable {s : σ} {F : Event I → Prop} {T : List (Event I) → Prop}

/-- A relation that every step of a program keeps between its start and its end. -/
def Maintains (P : σ → Prop) (x : Stateful I σ ε α) : Prop :=
  ∀ ⦃s τ r s'⦄, P s → Run (prog x s) τ (r, s') → P s'

namespace Maintains

variable {P : σ → Prop}

theorem ret (a : α) : Maintains P (pure a : Stateful I σ ε α) := by
  intro s τ r s' hP h
  obtain ⟨-, -, rfl⟩ := run_pure_iff.mp h
  exact hP

theorem throw (e : ε) : Maintains P (MonadExcept.throw e : Stateful I σ ε α) := by
  intro s τ r s' hP h
  obtain ⟨-, -, rfl⟩ := run_throw_iff.mp h
  exact hP

theorem lift (x : Fallible I ε α) : Maintains P (lift x : Stateful I σ ε α) := by
  intro s τ r s' hP h
  obtain ⟨-, rfl⟩ := run_lift_iff.mp h
  exact hP

theorem get : Maintains P (MonadState.get : Stateful I σ ε σ) := by
  intro s τ r s' hP h
  rw [prog_get] at h
  obtain ⟨-, he⟩ := Interaction.run_pure_iff.mp h
  obtain ⟨-, rfl⟩ := Prod.mk.inj he
  exact hP

theorem set {t : σ} (ht : P t) : Maintains P (MonadStateOf.set t : Stateful I σ ε PUnit) := by
  intro s τ r s' _ h
  rw [prog_set] at h
  obtain ⟨-, he⟩ := Interaction.run_pure_iff.mp h
  obtain ⟨-, rfl⟩ := Prod.mk.inj he
  exact ht

theorem bind {x : Stateful I σ ε α} {f : α → Stateful I σ ε β} (hx : Maintains P x)
    (hf : ∀ a, Maintains P (f a)) : Maintains P (x >>= f) := by
  intro s τ r s' hP h
  rcases run_bind_iff.mp h with ⟨e, -, h⟩ | ⟨τ₁, a, t, τ₂, rfl, h₁, h₂⟩
  · exact hx hP h
  · exact hf a (hx hP h₁) h₂

theorem get_bind {f : σ → Stateful I σ ε β} (hf : ∀ s, P s → Maintains P (f s)) :
    Maintains P (MonadState.get >>= f) :=
  fun s _ _ _ hP h => hf s hP hP (run_get_bind_iff.mp h)

theorem attempt {x : Stateful I σ ε α} (hx : Maintains P x) :
    Maintains P (attempt x : Stateful I σ ε' _) := by
  intro s τ r s' hP h
  obtain ⟨r', -, h⟩ := run_attempt_iff.mp h
  exact hx hP h

theorem mapErr {f : ε → ε'} {x : Stateful I σ ε α} (hx : Maintains P x) :
    Maintains P (mapErr f x) := by
  intro s τ r s' hP h
  obtain ⟨r', -, h⟩ := run_mapErr_iff.mp h
  exact hx hP h

theorem retry {body : Stateful I σ ε (Option α)} (hb : Maintains P body) (fuel : ℕ) :
    Maintains P (retry body fuel) := by
  induction fuel with
  | zero => intro s τ r s' _ h; exact absurd h not_run_diverge
  | succ fuel ih =>
    refine hb.bind fun o => ?_
    cases o with
    | none => exact ih
    | some a => exact ret a

end Maintains

theorem issues_bind {x : Stateful I σ ε α} {f : α → Stateful I σ ε β}
    (hx : Issues F (prog x s)) (hf : ∀ a t, Issues F (prog (f a) t)) :
    Issues F (prog (x >>= f) s) := by
  rw [prog_bind]
  refine hx.bind fun p => ?_
  rcases p with ⟨_ | a, t⟩
  · exact .pure _
  · exact hf a t

theorem issues_get : Issues F (prog (MonadState.get : Stateful I σ ε σ) s) := .pure _

theorem issues_set {t : σ} :
    Issues F (prog (MonadStateOf.set t : Stateful I σ ε PUnit) s) := .pure _

theorem issues_retry {body : Stateful I σ ε (Option α)} (hb : ∀ s, Issues F (prog body s))
    (fuel : ℕ) : ∀ s, Issues F (prog (retry body fuel) s) := by
  induction fuel with
  | zero => intro s τ a h; exact absurd h not_run_diverge
  | succ fuel ih =>
    intro s
    refine issues_bind (hb s) fun o t => ?_
    cases o with
    | none => exact ih t
    | some a => exact .pure _

/-- A sequence that halts on fatal events; its second part starts where a run of the first
ended, and its results may be read in another way than by their errors alone. -/
theorem haltsOn_bind_of_run {p : ε → Prop} {R : Except ε β → Prop} {x : Stateful I σ ε α}
    {f : α → Stateful I σ ε β} (hR : ∀ e, R (.error e) ↔ p e)
    (hx : HaltsOn F T (fun q => Fails p q.1) (prog x s))
    (hf : ∀ τ a t, Run (prog x s) τ (.ok a, t) → HaltsOn F T (fun q => R q.1) (prog (f a) t)) :
    HaltsOn F T (fun q => R q.1) (prog (x >>= f) s) := by
  rintro τ ⟨r, s'⟩ h
  rcases run_bind_iff.mp h with ⟨e, rfl, h₁⟩ | ⟨τ₁, a, t, τ₂, rfl, h₁, h₂⟩
  · have h := hx h₁
    dsimp only at h ⊢
    rwa [hR]
  · rcases hx h₁ with ⟨hp, -⟩ | ⟨-, hτ⟩
    · exact hp.elim
    · rcases hf τ₁ a t h₁ h₂ with ⟨hb, hτ₂⟩ | ⟨hb, hτ₂⟩
      · exact .inl ⟨hb, hτ₂.prepend hτ⟩
      · exact .inr ⟨hb, List.forall_mem_append.mpr ⟨hτ, hτ₂⟩⟩

theorem haltsOn_bind {p : ε → Prop} {x : Stateful I σ ε α} {f : α → Stateful I σ ε β}
    (hx : HaltsOn F T (fun q => Fails p q.1) (prog x s))
    (hf : ∀ a t, HaltsOn F T (fun q => Fails p q.1) (prog (f a) t)) :
    HaltsOn F T (fun q => Fails p q.1) (prog (x >>= f) s) :=
  haltsOn_bind_of_run (fun _ => Iff.rfl) hx fun _ a t _ => hf a t

theorem haltsOn_attempt_bind {S : Event I → Prop} {p : ε → Prop} {R : Except ε' β × σ → Prop}
    {x : Stateful I σ ε α} {f : Except ε α → Stateful I σ ε' β}
    (hx : HaltsOn F (AllOf S) (fun q => Fails p q.1) (prog x s))
    (hend : ∀ r t τ q, Fails p r → Run (prog (f r) t) τ q → AllOf S τ ∧ R q)
    (hf : ∀ r t, ¬ Fails p r → HaltsOn F (AllOf S) R (prog (f r) t)) :
    HaltsOn F (AllOf S) R (prog (attempt x >>= f) s) := by
  have heq : prog (attempt x >>= f) s = prog x s >>= fun q => prog (f q.1) q.2 := by
    rw [prog_bind, prog_attempt, map_eq_pure_bind, bind_assoc]
    rfl
  rw [heq]
  exact hx.bind_tail (fun q τ q' hR h => hend q.1 q.2 τ q' hR h) fun q hR => hf q.1 q.2 hR

theorem haltsOn_retry {B : Except ε (Option α) → Prop} {R : Except ε α → Prop}
    {body : Stateful I σ ε (Option α)}
    (hb : ∀ s, HaltsOn F T (fun q => B q.1) (prog body s))
    (herror : ∀ e, B (.error e) ↔ R (.error e)) (hsome : ∀ a, B (.ok (some a)) ↔ R (.ok a))
    (hnone : ¬ B (.ok none)) (fuel : ℕ) :
    ∀ s, HaltsOn F T (fun q => R q.1) (prog (retry body fuel) s) := by
  induction fuel with
  | zero => intro s τ a h; exact absurd h not_run_diverge
  | succ fuel ih =>
    rintro s τ ⟨r, s'⟩ h
    rcases run_retry_succ_iff.mp h with ⟨e, rfl, h₁⟩ | ⟨a, rfl, h₁⟩ | ⟨τ₁, t, τ₂, rfl, h₁, h₂⟩
    · have h := hb s h₁
      dsimp only at h ⊢
      rwa [herror] at h
    · have h := hb s h₁
      dsimp only at h ⊢
      rwa [hsome] at h
    · rcases hb s h₁ with ⟨hB, -⟩ | ⟨-, hτ⟩
      · exact absurd hB hnone
      · rcases ih t h₂ with ⟨hR, hτ₂⟩ | ⟨hR, hτ₂⟩
        · exact .inl ⟨hR, hτ₂.prepend hτ⟩
        · exact .inr ⟨hR, List.forall_mem_append.mpr ⟨hτ, hτ₂⟩⟩

end Rules

end Stateful

end Interaction
