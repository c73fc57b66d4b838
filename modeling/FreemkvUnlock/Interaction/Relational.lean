import FreemkvUnlock.Interaction.Stateful
import Mathlib.Data.Option.Basic

/-! # Pairs of runs

Two programs are similar over a relation on answers when related answers lead them to the same
calls and to related results. A program that is similar to itself does not depend on what the
relation leaves open.
-/

namespace Interaction

variable {I : Interface} {α α' β β' γ ε ε' σ T T' : Type}
  {S : (o : I.Op) → I.Answer o → I.Answer o → Prop}

/-- Both programs make the same calls and end in results related by `R`, as long as their answers
are related by `S`. -/
inductive Sim (S : (o : I.Op) → I.Answer o → I.Answer o → Prop) (R : α → β → Prop) :
    Prog I α → Prog I β → Prop
  | pure {a : α} {b : β} (h : R a b) : Sim S R (.pure a) (.pure b)
  | call {o : I.Op} {k : I.Answer o → Prog I α} {k' : I.Answer o → Prog I β}
      (h : ∀ r r', S o r r' → Sim S R (k r) (k' r')) : Sim S R (.call o k) (.call o k')
  | diverge : Sim S R .diverge .diverge

/-- Results of the same calls, related by `R`. -/
def SameRun (R : α → β → Prop) (p : α × List (Event I) × T) (p' : β × List (Event I) × T') : Prop :=
  R p.1 p'.1 ∧ p.2.1.map Sigma.fst = p'.2.1.map Sigma.fst

theorem sameRun_call {R : α → β → Prop} {h : Handler I T} {h' : Handler I T'} {o : I.Op}
    {k : I.Answer o → Prog I α} {k' : I.Answer o → Prog I β} {t : T} {t' : T'}
    (hrest : Option.Rel (SameRun R) (exec h (k (h o t).1) (h o t).2)
      (exec h' (k' (h' o t').1) (h' o t').2)) :
    Option.Rel (SameRun R) (exec h (.call o k) t) (exec h' (.call o k') t') := by
  unfold exec
  generalize exec h (k (h o t).1) (h o t).2 = p at hrest
  generalize exec h' (k' (h' o t').1) (h' o t').2 = p' at hrest
  cases hrest with
  | none => exact .none
  | some hp => exact .some ⟨hp.1, congrArg (o :: ·) hp.2⟩

namespace Sim

variable {R : α → β → Prop} {x : Prog I α} {y : Prog I β}

/-- Against handlers that keep giving related answers, similar programs diverge together or make
the same calls and end in related results. -/
theorem exec {h : Handler I T} {h' : Handler I T'} {B : T → T' → Prop} (hx : Sim S R x y)
    (hB : ∀ o t t', B t t' → S o (h o t).1 (h' o t').1 ∧ B (h o t).2 (h' o t').2) {t : T} {t' : T'}
    (ht : B t t') : Option.Rel (SameRun R) (exec h x t) (exec h' y t') := by
  induction hx generalizing t t' with
  | pure hR => exact .some ⟨hR, rfl⟩
  | @call o k k' _ ih =>
    obtain ⟨hS, hnext⟩ := hB o t t' ht
    exact sameRun_call (ih _ _ hS hnext)
  | diverge => exact .none

theorem mono {R' : α → β → Prop} (hx : Sim S R x y) (hR : ∀ a b, R a b → R' a b) :
    Sim S R' x y := by
  induction hx with
  | pure h => exact .pure (hR _ _ h)
  | call _ ih => exact .call ih
  | diverge => exact .diverge

theorem ask (o : I.Op) : Sim S (S o) (Prog.ask o) (Prog.ask o) := .call fun _ _ h => .pure h

theorem bind {R' : α' → β' → Prop} {f : α → Prog I α'} {g : β → Prog I β'} (hx : Sim S R x y)
    (hf : ∀ a b, R a b → Sim S R' (f a) (g b)) : Sim S R' (x >>= f) (y >>= g) := by
  induction hx with
  | pure h => exact hf _ _ h
  | call _ ih => exact .call ih
  | diverge => exact .diverge

theorem map {R' : α' → β' → Prop} {f : α → α'} {g : β → β'} (hx : Sim S R x y)
    (hf : ∀ a b, R a b → R' (f a) (g b)) : Sim S R' (f <$> x) (g <$> y) := by
  rw [← bind_pure_comp, ← bind_pure_comp]
  exact hx.bind fun a b h => .pure (hf a b h)

theorem retry {body : Prog I (Option α)} {body' : Prog I (Option β)}
    (hb : Sim S (Option.Rel R) body body') (fuel : ℕ) :
    Sim S R (Prog.retry body fuel) (Prog.retry body' fuel) := by
  induction fuel with
  | zero => exact .diverge
  | succ fuel ih =>
    refine hb.bind fun o o' ho => ?_
    cases ho with
    | none => exact ih
    | some h => exact .pure h

end Sim

/-- A program that does not depend on what `S` leaves open. -/
abbrev Steady (S : (o : I.Op) → I.Answer o → I.Answer o → Prop) (x : Prog I α) : Prop :=
  Sim S Eq x x

namespace Steady

variable {x : Prog I α}

theorem pure (a : α) : Steady S (Pure.pure a : Prog I α) := Sim.pure rfl

theorem ask {o : I.Op} (h : ∀ r r', S o r r' → r = r') : Steady S (Prog.ask o) :=
  (Sim.ask o).mono h

theorem bind {f : α → Prog I β} (hx : Steady S x) (hf : ∀ a, Steady S (f a)) :
    Steady S (x >>= f) := by
  refine Sim.bind hx ?_
  rintro a _ rfl
  exact hf a

theorem map {f : α → β} (hx : Steady S x) : Steady S (f <$> x) :=
  Sim.map hx fun _ _ => congrArg f

theorem retry {body : Prog I (Option α)} (hb : Steady S body) (fuel : ℕ) :
    Steady S (Prog.retry body fuel) := by
  refine Sim.retry (hb.mono ?_) fuel
  rintro (_ | a) _ rfl
  · exact .none
  · exact .some rfl

end Steady

/-! ## Fallible programs -/

inductive SameFailure (R : α → β → Prop) : Except ε α → Except ε β → Prop
  | error (e : ε) : SameFailure R (.error e) (.error e)
  | ok {a : α} {b : β} (h : R a b) : SameFailure R (.ok a) (.ok b)

theorem eq_of_sameFailure {r r' : Except ε α} (h : SameFailure Eq r r') : r = r' := by
  cases h with
  | error e => rfl
  | ok h => exact congrArg _ h

theorem sameFailure_of_eq {r r' : Except ε α} (h : r = r') : SameFailure Eq r r' := by
  subst h
  cases r with
  | error e => exact .error e
  | ok a => exact .ok rfl

section Fallible

open Fallible

variable {R : α → β → Prop}

/-- A sequence of which only the first part's successes may differ. -/
theorem Sim.seq {Q : Except ε α' → Except ε β' → Prop} {x : Fallible I ε α} {y : Fallible I ε β}
    {f : α → Fallible I ε α'} {g : β → Fallible I ε β'} (hQ : ∀ e, Q (.error e) (.error e))
    (hx : Sim S (SameFailure R) x.run y.run)
    (hf : ∀ a b, R a b → Sim S Q (f a).run (g b).run) : Sim S Q (x >>= f).run (y >>= g).run := by
  rw [ExceptT.run_bind, ExceptT.run_bind]
  refine Sim.bind hx fun r r' hr => ?_
  cases hr with
  | error e => exact .pure (hQ e)
  | ok h => exact hf _ _ h

theorem sim_askResult {o : I.Op} {f : I.Answer o → Except ε α} {g : I.Answer o → Except ε β}
    (h : ∀ r r', S o r r' → SameFailure R (f r) (g r')) :
    Sim S (SameFailure R)
      (ExceptT.lift (Prog.ask o) >>= fun a => result (f a) : Fallible I ε α).run
      (ExceptT.lift (Prog.ask o) >>= fun a => result (g a) : Fallible I ε β).run :=
  .call fun r r' hr => .pure (h r r' hr)

namespace Steady

variable {x : Fallible I ε α}

theorem sameFailure (hx : Steady S x.run) : Sim S (SameFailure Eq) x.run x.run :=
  hx.mono fun _ _ => sameFailure_of_eq

theorem ret (a : α) : Steady S (Pure.pure a : Fallible I ε α).run := .pure _

theorem throw (e : ε) : Steady S (MonadExcept.throw e : Fallible I ε α).run := .pure _

theorem result (r : Except ε α) : Steady S (Fallible.result r : Fallible I ε α).run := .pure _

theorem ensure {c : Prop} [Decidable c] {e : ε} :
    Steady S (Fallible.ensure c e : Fallible I ε Unit).run := by
  unfold Fallible.ensure
  split_ifs
  · exact ret ()
  · exact throw e

theorem lift {x : Prog I α} (hx : Steady S x) : Steady S (ExceptT.lift x : Fallible I ε α).run := by
  rw [ExceptT.run_lift]
  exact hx.map

theorem seq {f : α → Fallible I ε γ} (hx : Steady S x.run) (hf : ∀ a, Steady S (f a).run) :
    Steady S (x >>= f).run := by
  refine Sim.seq (fun _ => rfl) hx.sameFailure ?_
  rintro a _ rfl
  exact hf a

theorem mapErr {f : ε → ε'} (hx : Steady S x.run) : Steady S (Fallible.mapErr f x).run := hx.map

theorem askResult {o : I.Op} {f : I.Answer o → Except ε α} (h : ∀ r r', S o r r' → f r = f r') :
    Steady S
      (ExceptT.lift (Prog.ask o) >>= fun a => Fallible.result (f a) : Fallible I ε α).run :=
  (sim_askResult fun r r' hr => sameFailure_of_eq (h r r' hr)).mono fun _ _ => eq_of_sameFailure

theorem forM {δ : Type} {f : δ → Fallible I ε Unit} (hf : ∀ c, Steady S (f c).run) (cs : List δ) :
    Steady S (cs.forM f).run := by
  induction cs with
  | nil => exact ret ()
  | cons c cs ih =>
    change Steady S (f c >>= fun _ => cs.forM f).run
    exact .seq (hf c) fun _ => ih

end Steady

end Fallible

/-! ## Programs with a state -/

/-- Ends in the same state, with the same error or with successes related by `R`. -/
def SameEnd (R : α → β → Prop) (q : Except ε α × σ) (q' : Except ε β × σ) : Prop :=
  SameFailure R q.1 q'.1 ∧ q.2 = q'.2

namespace Stateful

variable {R : α → β → Prop} {s : σ}

theorem steady_of_sameEnd {x : Stateful I σ ε α}
    (hx : Sim S (SameEnd Eq) (prog x s) (prog x s)) : Steady S (prog x s) :=
  hx.mono fun _ _ h => Prod.ext (eq_of_sameFailure h.1) h.2

theorem sameEnd_of_steady {x : Stateful I σ ε α} (hx : Steady S (prog x s)) :
    Sim S (SameEnd Eq) (prog x s) (prog x s) := by
  refine hx.mono ?_
  rintro q _ rfl
  exact ⟨sameFailure_of_eq rfl, rfl⟩

theorem sim_bind {Q : Except ε α' × σ → Except ε β' × σ → Prop} {x : Stateful I σ ε α}
    {y : Stateful I σ ε β} {f : α → Stateful I σ ε α'} {g : β → Stateful I σ ε β'}
    (hQ : ∀ e t, Q (.error e, t) (.error e, t)) (hx : Sim S (SameEnd R) (prog x s) (prog y s))
    (hf : ∀ a b t, R a b → Sim S Q (prog (f a) t) (prog (g b) t)) :
    Sim S Q (prog (x >>= f) s) (prog (y >>= g) s) := by
  rw [prog_bind, prog_bind]
  refine Sim.bind hx ?_
  rintro ⟨r, t⟩ ⟨r', t'⟩ ⟨hr, rfl : t = t'⟩
  cases hr with
  | error e => exact .pure (hQ e t)
  | ok h => exact hf _ _ t h

theorem sim_lift {x : Fallible I ε α} {y : Fallible I ε β}
    (hx : Sim S (SameFailure R) x.run y.run) :
    Sim S (SameEnd R) (prog (lift x : Stateful I σ ε α) s) (prog (lift y : Stateful I σ ε β) s) :=
  hx.map fun _ _ h => ⟨h, rfl⟩

theorem sim_attempt {x : Stateful I σ ε α} {y : Stateful I σ ε β}
    (hx : Sim S (SameEnd R) (prog x s) (prog y s)) :
    Sim S (SameEnd (SameFailure R)) (prog (attempt x : Stateful I σ ε' _) s)
      (prog (attempt y : Stateful I σ ε' _) s) :=
  hx.map fun _ _ h => ⟨.ok h.1, h.2⟩

theorem sim_retry {body : Stateful I σ ε (Option α)} {body' : Stateful I σ ε (Option β)}
    (hb : ∀ s, Sim S (SameEnd (Option.Rel R)) (prog body s) (prog body' s)) (fuel : ℕ) :
    ∀ s, Sim S (SameEnd R) (prog (retry body fuel) s) (prog (retry body' fuel) s) := by
  induction fuel with
  | zero => exact fun s => .diverge
  | succ fuel ih =>
    refine fun s => sim_bind (fun e t => ⟨.error e, rfl⟩) (hb s) fun o o' t ho => ?_
    cases ho with
    | none => exact ih t
    | some h => exact .pure ⟨.ok h, rfl⟩

theorem sim_seq {Q : Except ε α' × σ → Except ε β' × σ → Prop} {x : Stateful I σ ε α}
    {f : α → Stateful I σ ε α'} {g : α → Stateful I σ ε β'}
    (hQ : ∀ e t, Q (.error e, t) (.error e, t)) (hx : Steady S (prog x s))
    (hf : ∀ a t, Sim S Q (prog (f a) t) (prog (g a) t)) :
    Sim S Q (prog (x >>= f) s) (prog (x >>= g) s) := by
  refine sim_bind hQ (sameEnd_of_steady hx) ?_
  rintro a _ t rfl
  exact hf a t

theorem steady_bind {x : Stateful I σ ε α} {f : α → Stateful I σ ε γ} (hx : Steady S (prog x s))
    (hf : ∀ a t, Steady S (prog (f a) t)) : Steady S (prog (x >>= f) s) :=
  sim_seq (fun _ _ => rfl) hx hf

theorem steady_get_bind {f : σ → Stateful I σ ε α} (hf : Steady S (prog (f s) s)) :
    Steady S (prog (get >>= f) s) := by
  rw [prog_bind, prog_get]
  exact hf

theorem steady_set_bind {t : σ} {f : PUnit → Stateful I σ ε α} (hf : Steady S (prog (f ⟨⟩) t)) :
    Steady S (prog (set t >>= f) s) := by
  rw [prog_bind, prog_set]
  exact hf

theorem steady_lift {x : Fallible I ε α} (hx : Steady S x.run) :
    Steady S (prog (lift x : Stateful I σ ε α) s) := hx.map

theorem steady_attempt {x : Stateful I σ ε α} (hx : Steady S (prog x s)) :
    Steady S (prog (attempt x : Stateful I σ ε' _) s) := hx.map

theorem steady_mapErr {f : ε → ε'} {x : Stateful I σ ε α} (hx : Steady S (prog x s)) :
    Steady S (prog (mapErr f x) s) := hx.map

theorem steady_eval {x : Stateful I σ ε α} (hx : Steady S (prog x s)) :
    Steady S (eval x s).run := hx.map

theorem steady_retry {body : Stateful I σ ε (Option α)} (hb : ∀ s, Steady S (prog body s))
    (fuel : ℕ) (s : σ) : Steady S (prog (retry body fuel) s) := by
  refine steady_of_sameEnd (sim_retry (fun s => (sameEnd_of_steady (hb s)).mono ?_) fuel s)
  rintro ⟨r, t⟩ ⟨r', t'⟩ ⟨hr, ht⟩
  refine ⟨?_, ht⟩
  cases hr with
  | error e => exact .error e
  | @ok o o' h =>
    obtain rfl : o = o' := h
    cases o with
    | none => exact .ok .none
    | some a => exact .ok (.some rfl)

end Stateful

end Interaction
