import FreemkvUnlock.Interaction.Prog

/-! # Loops that end

A program whose loops have an iteration budget settles in an environment when every large
enough budget gives the same outcome: it then stands for a program whose loops have no budget
and end. A loop over random draws settles when an accepted draw comes up from every state.
-/

namespace Interaction

variable {I : Interface} {σ α β ε ε' : Type} {h : Handler I σ}

/-- From `s`, every large enough budget gives one and the same outcome. -/
def SettlesAt (h : Handler I σ) (x : ℕ → Prog I α) (s : σ) (r : α × List (Event I) × σ) : Prop :=
  ∃ N, ∀ fuel ≥ N, exec h (x fuel) s = some r

def SettlesFrom (h : Handler I σ) (x : ℕ → Prog I α) (s : σ) : Prop :=
  ∃ r, SettlesAt h x s r

/-- The program settles from every state. -/
def Settles (h : Handler I σ) (x : ℕ → Prog I α) : Prop := ∀ s, SettlesFrom h x s

theorem SettlesFrom.bind {x : ℕ → Prog I α} {f : ℕ → α → Prog I β} {s : σ}
    (hx : SettlesFrom h x s)
    (hf : ∀ a τ s', SettlesAt h x s (a, τ, s') → SettlesFrom h (fun n => f n a) s') :
    SettlesFrom h (fun n => x n >>= f n) s := by
  obtain ⟨⟨a, τ, s'⟩, N, hN⟩ := hx
  obtain ⟨⟨b, τ', s''⟩, M, hM⟩ := hf a τ s' ⟨N, hN⟩
  refine ⟨(b, τ ++ τ', s''), max N M, fun fuel hfuel => ?_⟩
  rw [exec_bind, hN fuel (by omega)]
  simp [hM fuel (by omega)]

namespace Settles

theorem pure (a : α) : Settles h fun _ => (Pure.pure a : Prog I α) :=
  fun s => ⟨(a, [], s), 0, fun _ _ => rfl⟩

theorem ask (o : I.Op) : Settles h fun _ => Prog.ask o := fun _ => ⟨_, 0, fun _ _ => rfl⟩

theorem bind {x : ℕ → Prog I α} {f : ℕ → α → Prog I β} (hx : Settles h x)
    (hf : ∀ a, Settles h fun n => f n a) : Settles h fun n => x n >>= f n :=
  fun s => (hx s).bind fun a _ s' _ => hf a s'

theorem map {x : ℕ → Prog I α} {f : α → β} (hx : Settles h x) : Settles h fun n => f <$> x n := by
  simp only [← bind_pure_comp]
  exact hx.bind fun a => pure (f a)

/-! ## Fallible programs -/

open Fallible

theorem ret (a : α) : Settles h fun _ => (Pure.pure a : Fallible I ε α).run := pure _

theorem lift {x : ℕ → Prog I α} (hx : Settles h x) :
    Settles h fun n => (ExceptT.lift (x n) : Fallible I ε α).run := by
  simp only [ExceptT.run_lift]
  exact hx.map

theorem mapErr {x : ℕ → Fallible I ε α} {f : ε → ε'} (hx : Settles h fun n => (x n).run) :
    Settles h fun n => (Fallible.mapErr f (x n)).run := hx.map

theorem result (r : Except ε α) : Settles h fun _ => (Fallible.result r : Fallible I ε α).run :=
  pure r

theorem ensure (c : Prop) [Decidable c] (e : ε) :
    Settles h fun _ => (Fallible.ensure c e : Fallible I ε Unit).run := by
  unfold Fallible.ensure
  split_ifs <;> exact pure _

theorem seq {x : ℕ → Fallible I ε α} {f : ℕ → α → Fallible I ε β}
    (hx : Settles h fun n => (x n).run) (hf : ∀ a, Settles h fun n => (f n a).run) :
    Settles h fun n => (x n >>= f n).run := by
  simp only [ExceptT.run_bind]
  refine hx.bind fun r => ?_
  cases r with
  | error e => exact pure _
  | ok a => exact hf a

/-- A sequence whose second part settles after what the first can have returned. -/
theorem seq_of_run {x : Fallible I ε α} {f : α → Fallible I ε β} (hx : Settles h fun _ => x.run)
    (hf : ∀ a τ, Run x.run τ (.ok a) → Settles h fun _ => (f a).run) :
    Settles h fun _ => (x >>= f).run := by
  simp only [ExceptT.run_bind]
  refine fun s => (hx s).bind fun r τ s' ⟨N, hN⟩ => ?_
  cases r with
  | error e => exact pure _ s'
  | ok a => exact hf a τ (run_of_exec (hN N (Nat.le_refl N))) s'

theorem forM {γ : Type} {f : γ → Fallible I ε Unit} {cs : List γ}
    (hf : ∀ c ∈ cs, Settles h fun _ => (f c).run) : Settles h fun _ => (cs.forM f).run := by
  induction cs with
  | nil => exact ret ()
  | cons c cs ih =>
    exact .seq (hf c List.mem_cons_self) fun _ => ih fun c' hc => hf c' (List.mem_cons_of_mem c hc)

end Settles

theorem Settles.exec {x : Prog I α} (hx : Settles h fun _ => x) (s : σ) :
    ∃ a τ s', exec h x s = some (a, τ, s') := by
  obtain ⟨⟨a, τ, s'⟩, N, hN⟩ := hx s
  exact ⟨a, τ, s', hN N (Nat.le_refl N)⟩

/-! ## Random draws -/

inductive Draws (h : Handler I σ) (o : I.Op) (r : I.Answer o) : σ → Prop
  | now {s : σ} : (h o s).1 = r → Draws h o r s
  | later {s : σ} : Draws h o r (h o s).2 → Draws h o r s

theorem exec_drawLoop_succ {o : I.Op} {f : I.Answer o → Option α} (s : σ) (fuel : ℕ) :
    exec h (Prog.retry (do let a ← Prog.ask o; return f a) (fuel + 1)) s =
      match f (h o s).1 with
      | some a => some (a, [⟨o, (h o s).1⟩], (h o s).2)
      | none => (exec h (Prog.retry (do let a ← Prog.ask o; return f a) fuel) (h o s).2).map
          fun (a, τ, s') => (a, ⟨o, (h o s).1⟩ :: τ, s') := by
  simp only [Prog.retry, exec_bind, exec_ask, exec_pure, Option.map_some, Option.bind_some]
  cases f (h o s).1 with
  | none => simp
  | some a => rfl

/-- A loop over draws settles when a draw it accepts comes up. -/
theorem Settles.drawLoop {o : I.Op} {f : I.Answer o → Option α} {r : I.Answer o}
    (hd : ∀ s, Draws h o r s) (hr : (f r).isSome) :
    Settles h (Prog.retry (do let a ← Prog.ask o; return f a)) := by
  intro s
  induction hd s with
  | @now s hs =>
    obtain ⟨a, ha⟩ := Option.isSome_iff_exists.mp hr
    refine ⟨(a, [⟨o, (h o s).1⟩], (h o s).2), 1, fun fuel hfuel => ?_⟩
    obtain ⟨fuel, rfl⟩ := Nat.exists_eq_add_of_le' hfuel
    rw [exec_drawLoop_succ, hs, ha]
  | @later s hs ih =>
    rcases ho : f (h o s).1 with _ | a
    · obtain ⟨⟨a, τ, s'⟩, N, hN⟩ := ih
      refine ⟨(a, ⟨o, (h o s).1⟩ :: τ, s'), N + 1, fun fuel hfuel => ?_⟩
      obtain ⟨fuel, rfl⟩ := Nat.exists_eq_add_of_le' (Nat.le_of_add_left_le hfuel)
      rw [exec_drawLoop_succ, ho, hN fuel (by omega)]
      rfl
    · refine ⟨(a, [⟨o, (h o s).1⟩], (h o s).2), 1, fun fuel hfuel => ?_⟩
      obtain ⟨fuel, rfl⟩ := Nat.exists_eq_add_of_le' hfuel
      rw [exec_drawLoop_succ, ho]

end Interaction
