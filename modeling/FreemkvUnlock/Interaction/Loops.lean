import FreemkvUnlock.Interaction.Contract
import FreemkvUnlock.Interaction.Stateful
import FreemkvUnlock.Interaction.Termination
import Mathlib.Order.WellFounded

/-! # Loops with a state

A loop of a program with a state settles in an environment when every iteration that goes on
moves the two states down a well-founded relation.
-/

namespace Interaction

variable {I : Interface} {σ S α β ε ε' : Type} {h : Handler I S}

/-- One more iteration of the budget changes nothing about settling. -/
theorem SettlesFrom.of_succ {x : ℕ → Prog I α} {t : S}
    (hx : SettlesFrom h (fun fuel => x (fuel + 1)) t) : SettlesFrom h x t := by
  obtain ⟨r, N, hN⟩ := hx
  refine ⟨r, N + 1, fun fuel hfuel => ?_⟩
  obtain ⟨fuel, rfl⟩ := Nat.exists_eq_add_of_le' hfuel
  exact hN (fuel + N) (by omega)

/-- What a settled program ends with is what one of its executions ends with. -/
theorem SettlesAt.exec {x : ℕ → Prog I α} {t : S} {r : α × List (Event I) × S}
    (hx : SettlesAt h x t r) : ∃ fuel, exec h (x fuel) t = some r :=
  hx.imp fun N hN => hN N le_rfl

namespace Stateful

variable {s : σ} {t : S}

theorem settles_ret (a : α) : Settles h fun _ => prog (pure a : Stateful I σ ε α) s := .pure _

theorem settles_throw (e : ε) : Settles h fun _ => prog (throw e : Stateful I σ ε α) s := .pure _

theorem settles_lift {x : ℕ → Fallible I ε α} (hx : Settles h fun n => (x n).run) :
    Settles h fun n => prog (lift (x n) : Stateful I σ ε α) s := hx.map

theorem settles_attempt {x : ℕ → Stateful I σ ε α} (hx : Settles h fun n => prog (x n) s) :
    Settles h fun n => prog (attempt (x n) : Stateful I σ ε' _) s := hx.map

theorem settlesFrom_bind {x : ℕ → Stateful I σ ε α} {f : ℕ → α → Stateful I σ ε β}
    (hx : SettlesFrom h (fun n => prog (x n) s) t)
    (hf : ∀ a s' τ t', SettlesAt h (fun n => prog (x n) s) t ((.ok a, s'), τ, t') →
      SettlesFrom h (fun n => prog (f n a) s') t') :
    SettlesFrom h (fun n => prog (x n >>= f n) s) t := by
  simp only [prog_bind]
  refine hx.bind fun p τ t' hp => ?_
  rcases p with ⟨_ | a, s'⟩
  · exact Settles.pure _ t'
  · exact hf a s' τ t' hp

theorem settles_bind {x : ℕ → Stateful I σ ε α} {f : ℕ → α → Stateful I σ ε β}
    (hx : Settles h fun n => prog (x n) s) (hf : ∀ a s', Settles h fun n => prog (f n a) s') :
    Settles h fun n => prog (x n >>= f n) s :=
  fun t => settlesFrom_bind (hx t) fun a s' _ t' _ => hf a s' t'

/-- A loop settles when its iterations do and those that go on move down a well-founded
relation. -/
theorem settlesFrom_retry {body : Stateful I σ ε (Option α)} {R : σ × S → σ × S → Prop}
    (hwf : WellFounded R) (hbody : ∀ s, Settles h fun _ => prog body s)
    (hdown : ∀ s t τ s' t', exec h (prog body s) t = some ((.ok none, s'), τ, t') →
      R (s', t') (s, t)) (s : σ) (t : S) :
    SettlesFrom h (fun fuel => prog (retry body fuel) s) t := by
  induction hp : (s, t) using hwf.induction generalizing s t with
  | _ p ih =>
    subst hp
    refine SettlesFrom.of_succ ?_
    refine settlesFrom_bind (x := fun _ => body) (hbody s t) fun o s' τ t' hset => ?_
    obtain ⟨-, hexec⟩ := hset.exec
    cases o with
    | none => exact ih (s', t') (hdown s t τ s' t' hexec) s' t' rfl
    | some a => exact settles_ret a t'

end Stateful

end Interaction
