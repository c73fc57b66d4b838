import FreemkvUnlock.Interaction.Splits
import Mathlib.Tactic.Common

/-! # Interaction programs

A program calls the operations of an interface and continues with the answers. Its runs list
every call with the answer it got, so a property of all runs is a property against every
environment. A handler is one environment: it fixes the answers and leaves one run at most.
-/

namespace Interaction

structure Interface where
  Op : Type
  Answer : Op → Type

/-- A call together with its answer. -/
abbrev Event (I : Interface) : Type := (o : I.Op) × I.Answer o

/-- Finite call trees; `diverge` is a loop that ran out of its iteration budget. -/
inductive Prog (I : Interface) (α : Type) : Type where
  | pure (a : α)
  | call (o : I.Op) (k : I.Answer o → Prog I α)
  | diverge

variable {I : Interface} {α β γ ε ε' : Type}

namespace Prog

def bind : Prog I α → (α → Prog I β) → Prog I β
  | .pure a, f => f a
  | .call o k, f => .call o fun r => (k r).bind f
  | .diverge, _ => .diverge

instance : Monad (Prog I) where
  pure := Prog.pure
  bind := Prog.bind

instance : LawfulMonad (Prog I) := LawfulMonad.mk' (Prog I)
  (fun x => by
    show x.bind Prog.pure = x
    induction x with
    | pure a => rfl
    | call o k ih => exact congrArg (Prog.call o) (funext ih)
    | diverge => rfl)
  (fun _ _ => rfl)
  (fun x f g => by
    show (x.bind f).bind g = x.bind fun a => (f a).bind g
    induction x with
    | pure a => rfl
    | call o k ih => exact congrArg (Prog.call o) (funext ih)
    | diverge => rfl)

/-- Perform one call and return its answer. -/
def ask (o : I.Op) : Prog I (I.Answer o) := .call o .pure

/-- Repeat `body` until it yields a value, at most `fuel` times. -/
def retry (body : Prog I (Option α)) : ℕ → Prog I α
  | 0 => .diverge
  | fuel + 1 => do
    match ← body with
    | some a => pure a
    | none => retry body fuel

end Prog

/-- The completed runs of a program: the events in order and the returned value. -/
inductive Run : Prog I α → List (Event I) → α → Prop
  | pure (a : α) : Run (.pure a) [] a
  | call {o : I.Op} {k : I.Answer o → Prog I α} (r : I.Answer o) {τ : List (Event I)} {a : α} :
      Run (k r) τ a → Run (.call o k) (⟨o, r⟩ :: τ) a

section Run

variable {τ : List (Event I)}

@[simp] theorem run_pure_iff {a b : α} : Run (pure a : Prog I α) τ b ↔ τ = [] ∧ b = a := by
  constructor
  · intro h; cases h; exact ⟨rfl, rfl⟩
  · rintro ⟨rfl, rfl⟩; exact .pure _

theorem run_call_iff {o : I.Op} {k : I.Answer o → Prog I α} {a : α} :
    Run (.call o k) τ a ↔ ∃ r τ', τ = ⟨o, r⟩ :: τ' ∧ Run (k r) τ' a := by
  constructor
  · intro h; cases h with | call r h => exact ⟨r, _, rfl, h⟩
  · rintro ⟨r, τ', rfl, h⟩; exact .call r h

@[simp] theorem run_ask_iff {o : I.Op} {r : I.Answer o} :
    Run (Prog.ask o) τ r ↔ τ = [⟨o, r⟩] := by
  rw [Prog.ask, run_call_iff]
  constructor
  · rintro ⟨r', τ', rfl, h⟩; cases h; rfl
  · rintro rfl; exact ⟨r, [], rfl, .pure r⟩

@[simp] theorem not_run_diverge {a : α} : ¬ Run (.diverge : Prog I α) τ a := nofun

theorem run_bind_iff {x : Prog I α} {f : α → Prog I β} {b : β} :
    Run (x >>= f) τ b ↔ ∃ τ₁ a τ₂, τ = τ₁ ++ τ₂ ∧ Run x τ₁ a ∧ Run (f a) τ₂ b := by
  change Run (x.bind f) τ b ↔ _
  induction x generalizing τ with
  | pure a =>
    constructor
    · intro h; exact ⟨[], a, τ, rfl, .pure a, h⟩
    · rintro ⟨τ₁, a', τ₂, rfl, h₁, h₂⟩; cases h₁; exact h₂
  | call o k ih =>
    rw [Prog.bind, run_call_iff]
    constructor
    · rintro ⟨r, τ', rfl, h⟩
      obtain ⟨τ₁, a, τ₂, rfl, h₁, h₂⟩ := (ih r).mp h
      exact ⟨_, a, τ₂, rfl, .call r h₁, h₂⟩
    · rintro ⟨τ₁, a, τ₂, rfl, h₁, h₂⟩
      cases h₁ with | call r h₁ => exact ⟨r, _, rfl, (ih r).mpr ⟨_, a, τ₂, rfl, h₁, h₂⟩⟩
  | diverge =>
    constructor
    · nofun
    · rintro ⟨_, _, _, _, h, _⟩; cases h

theorem run_map_iff {x : Prog I α} {f : α → β} {b : β} :
    Run (f <$> x) τ b ↔ ∃ a, Run x τ a ∧ b = f a := by
  rw [← bind_pure_comp, run_bind_iff]
  constructor
  · rintro ⟨τ₁, a, τ₂, rfl, h, h'⟩
    obtain ⟨rfl, rfl⟩ := run_pure_iff.mp h'
    exact ⟨a, by simpa using h, rfl⟩
  · rintro ⟨a, h, rfl⟩; exact ⟨τ, a, [], by simp, h, run_pure_iff.mpr ⟨rfl, rfl⟩⟩

theorem Run.bind {x : Prog I α} {f : α → Prog I β} {τ₁ τ₂ : List (Event I)} {a : α} {b : β}
    (h₁ : Run x τ₁ a) (h₂ : Run (f a) τ₂ b) : Run (x >>= f) (τ₁ ++ τ₂) b :=
  run_bind_iff.mpr ⟨τ₁, a, τ₂, rfl, h₁, h₂⟩

/-- Where a program stops is decided by the events alone. -/
theorem run_prefix_unique {x : Prog I α} {τ₁ τ₂ σ₁ σ₂ : List (Event I)} {a b : α}
    (h₁ : Run x τ₁ a) (h₂ : Run x τ₂ b) (h : τ₁ ++ σ₁ = τ₂ ++ σ₂) : τ₁ = τ₂ ∧ a = b := by
  induction h₁ generalizing τ₂ with
  | pure a =>
    cases h₂
    exact ⟨rfl, rfl⟩
  | call r _ ih =>
    cases h₂ with
    | call r' h₂ =>
      obtain ⟨he, ht⟩ := List.cons.inj h
      obtain rfl : r = r' := eq_of_heq (Sigma.mk.inj he).2
      obtain ⟨rfl, rfl⟩ := ih h₂ ht
      exact ⟨rfl, rfl⟩

/-- After a run of the first part the rest of the events belong to the second. -/
theorem run_append_iff {x : Prog I α} {f : α → Prog I β} {τ₁ τ₂ : List (Event I)} {a : α} {b : β}
    (h : Run x τ₁ a) : Run (x >>= f) (τ₁ ++ τ₂) b ↔ Run (f a) τ₂ b := by
  refine ⟨fun hr => ?_, fun hf => h.bind hf⟩
  obtain ⟨σ₁, a', σ₂, heq, h₁, h₂⟩ := run_bind_iff.mp hr
  obtain ⟨rfl, rfl⟩ := run_prefix_unique h h₁ heq
  obtain rfl := List.append_cancel_left heq
  exact h₂

/-- A completed loop ends with an accepted iteration; the earlier ones were rejected. -/
theorem run_retry {body : Prog I (Option α)} {fuel : ℕ} {a : α}
    (h : Run (Prog.retry body fuel) τ a) :
    ∃ (τs : List (List (Event I))) (τ' : List (Event I)), τ = τs.flatten ++ τ' ∧
      (∀ ρ ∈ τs, Run body ρ none) ∧ Run body τ' (some a) := by
  induction fuel generalizing τ with
  | zero => cases h
  | succ fuel ih =>
    obtain ⟨τ₁, o, τ₂, rfl, h₁, h₂⟩ := run_bind_iff.mp h
    cases o with
    | none =>
      obtain ⟨τs, τ', rfl, hs, h'⟩ := ih h₂
      exact ⟨τ₁ :: τs, τ', by simp, by simpa using ⟨h₁, hs⟩, h'⟩
    | some a' =>
      obtain ⟨rfl, rfl⟩ := run_pure_iff.mp h₂
      exact ⟨[], τ₁, by simp, by simp, h₁⟩

end Run

/-! ## Fallible programs -/

/-- A program that may fail with an error of type `ε`. -/
abbrev Fallible (I : Interface) (ε α : Type) : Type := ExceptT ε (Prog I) α

namespace Fallible

/-- Replace the error of a failing program. -/
def mapErr (f : ε → ε') (x : Fallible I ε α) : Fallible I ε' α :=
  ExceptT.mk (Except.mapError f <$> x.run)

def result (r : Except ε α) : Fallible I ε α := ExceptT.mk (pure r)

def okOr (x : Option α) (e : ε) : Except ε α := x.elim (.error e) .ok

def check (c : Prop) [Decidable c] (e : ε) : Except ε Unit := if c then .ok () else .error e

/-- Fail unless the condition holds. -/
def ensure (c : Prop) [Decidable c] (e : ε) : Fallible I ε Unit :=
  if c then pure () else throw e

end Fallible

section FallibleRun

open Fallible

variable {τ : List (Event I)}

@[simp] theorem run_fallible_pure_iff {a : α} {r : Except ε α} :
    Run (pure a : Fallible I ε α).run τ r ↔ τ = [] ∧ r = .ok a := by
  rw [ExceptT.run_pure, run_pure_iff]

@[simp] theorem run_throw_iff {e : ε} {r : Except ε α} :
    Run (throw e : Fallible I ε α).run τ r ↔ τ = [] ∧ r = .error e := by
  rw [ExceptT.run_throw, run_pure_iff]

theorem run_lift_iff {x : Prog I α} {r : Except ε α} :
    Run (ExceptT.lift x : Fallible I ε α).run τ r ↔ ∃ a, Run x τ a ∧ r = .ok a := by
  rw [ExceptT.run_lift, run_map_iff]

@[simp] theorem run_lift_ok_iff {x : Prog I α} {a : α} :
    Run (ExceptT.lift x : Fallible I ε α).run τ (.ok a) ↔ Run x τ a := by
  rw [run_lift_iff]
  simp

theorem run_result_iff {x r : Except ε α} :
    Run (result x : Fallible I ε α).run τ r ↔ τ = [] ∧ r = x := run_pure_iff

@[simp] theorem check_eq_ok_iff {c : Prop} [Decidable c] {e : ε} {u : Unit} :
    check c e = .ok u ↔ c := by
  unfold check
  split_ifs with h <;> simp [h]

theorem except_bind_eq_ok_iff {x : Except ε α} {f : α → Except ε β} {b : β} :
    (x >>= f) = .ok b ↔ ∃ a, x = .ok a ∧ f a = .ok b := by
  cases x with
  | error e => exact ⟨nofun, nofun⟩
  | ok a => exact ⟨fun h => ⟨a, rfl, h⟩, fun ⟨_, ha, h⟩ => Except.ok.inj ha ▸ h⟩

theorem mapM_cons_eq_ok_iff {f : α → Except ε β} {a : α} {as : List α} {bs : List β} :
    (a :: as).mapM f = .ok bs ↔ ∃ b bs', f a = .ok b ∧ as.mapM f = .ok bs' ∧ bs = b :: bs' := by
  simp only [List.mapM_cons, except_bind_eq_ok_iff, pure, Except.pure, Except.ok.injEq]
  constructor
  · rintro ⟨b, hb, bs', hbs, rfl⟩
    exact ⟨b, bs', hb, hbs, rfl⟩
  · rintro ⟨b, bs', hb, hbs, rfl⟩
    exact ⟨b, hb, bs', hbs, rfl⟩

theorem length_mapM_eq_ok {f : α → Except ε β} {as : List α} {bs : List β}
    (h : as.mapM f = .ok bs) : bs.length = as.length := by
  induction as generalizing bs with
  | nil => cases h; rfl
  | cons a as ih =>
    obtain ⟨b, bs', -, hbs, rfl⟩ := mapM_cons_eq_ok_iff.mp h
    rw [List.length_cons, List.length_cons, ih hbs]

theorem mapM_eq_ok {f : α → Except ε β} {as : List α} {bs : List β} (h : as.mapM f = .ok bs) :
    ∀ a ∈ as, ∃ b ∈ bs, f a = .ok b := by
  induction as generalizing bs with
  | nil => nofun
  | cons a as ih =>
    obtain ⟨b, bs', hb, hbs, rfl⟩ := mapM_cons_eq_ok_iff.mp h
    rintro a' (_ | ⟨_, ha⟩)
    · exact ⟨b, by simp, hb⟩
    · obtain ⟨b', hb', hf⟩ := ih hbs a' ha
      exact ⟨b', by simp [hb'], hf⟩

theorem filterMapM_eq_ok {f : α → Except ε (Option β)} {as : List α} {bs : List β}
    (h : as.filterMapM f = .ok bs) : ∀ a ∈ as, ∀ b, f a = .ok (some b) → b ∈ bs := by
  induction as generalizing bs with
  | nil => exact List.forall_mem_nil _
  | cons a as ih =>
    rw [List.filterMapM_cons] at h
    obtain ⟨o, ho, h⟩ := except_bind_eq_ok_iff.mp h
    refine List.forall_mem_cons.mpr ⟨fun b hb => ?_, fun a' ha' b hb => ?_⟩
    · obtain rfl := Except.ok.inj (ho.symm.trans hb)
      obtain ⟨bs', -, h⟩ := except_bind_eq_ok_iff.mp h
      obtain rfl := Except.ok.inj h
      exact List.mem_cons_self
    · cases o with
      | none => exact ih h a' ha' b hb
      | some c =>
        obtain ⟨bs', hbs, h⟩ := except_bind_eq_ok_iff.mp h
        obtain rfl := Except.ok.inj h
        exact List.mem_cons_of_mem c (ih hbs a' ha' b hb)

/-- What every step of a fold keeps holds of its result. -/
theorem foldlM_invariant {f : β → α → Except ε β} {as : List α} {b b' : β} (I : β → Prop)
    (hf : ∀ b a b', I b → f b a = .ok b' → I b') (hb : I b) (h : as.foldlM f b = .ok b') :
    I b' := by
  induction as generalizing b with
  | nil => exact Except.ok.inj h ▸ hb
  | cons a as ih =>
    rw [List.foldlM_cons] at h
    obtain ⟨c, hc, h⟩ := except_bind_eq_ok_iff.mp h
    exact ih (hf b a c hb hc) h

@[simp] theorem okOr_eq_ok_iff {x : Option α} {e : ε} {a : α} : okOr x e = .ok a ↔ x = some a := by
  cases x <;> simp [okOr]

/-- A sequence fails with its first part, or runs both parts. -/
theorem run_fallible_bind_iff {x : Fallible I ε α} {f : α → Fallible I ε β} {r : Except ε β} :
    Run (x >>= f).run τ r ↔
      (∃ e, r = .error e ∧ Run x.run τ (.error e)) ∨
      ∃ τ₁ a τ₂, τ = τ₁ ++ τ₂ ∧ Run x.run τ₁ (.ok a) ∧ Run (f a).run τ₂ r := by
  rw [ExceptT.run_bind, run_bind_iff]
  constructor
  · rintro ⟨τ₁, o, τ₂, rfl, h₁, h₂⟩
    cases o with
    | error e =>
      obtain ⟨rfl, rfl⟩ := run_pure_iff.mp h₂
      exact .inl ⟨e, rfl, by simpa using h₁⟩
    | ok a => exact .inr ⟨τ₁, a, τ₂, rfl, h₁, h₂⟩
  · rintro (⟨e, rfl, h⟩ | ⟨τ₁, a, τ₂, rfl, h₁, h₂⟩)
    · exact ⟨τ, _, [], by simp, h, run_pure_iff.mpr ⟨rfl, rfl⟩⟩
    · exact ⟨τ₁, .ok a, τ₂, rfl, h₁, h₂⟩

theorem run_fallible_bind_ok_iff {x : Fallible I ε α} {f : α → Fallible I ε β} {b : β} :
    Run (x >>= f).run τ (.ok b) ↔
      ∃ τ₁ a τ₂, τ = τ₁ ++ τ₂ ∧ Run x.run τ₁ (.ok a) ∧ Run (f a).run τ₂ (.ok b) := by
  rw [run_fallible_bind_iff]
  simp

theorem run_mapErr_iff {f : ε → ε'} {x : Fallible I ε α} {r : Except ε' α} :
    Run (mapErr f x).run τ r ↔ ∃ o, Run x.run τ o ∧ r = o.mapError f := run_map_iff

@[simp] theorem run_mapErr_ok_iff {f : ε → ε'} {x : Fallible I ε α} {a : α} :
    Run (mapErr f x).run τ (.ok a) ↔ Run x.run τ (.ok a) := by
  rw [run_mapErr_iff]
  constructor
  · rintro ⟨o, h, ho⟩
    cases o with
    | error e => simp [Except.mapError] at ho
    | ok b => simp only [Except.mapError, Except.ok.injEq] at ho; exact ho ▸ h
  · intro h; exact ⟨_, h, rfl⟩

@[simp] theorem run_ensure_iff {c : Prop} [Decidable c] {e : ε} {r : Except ε Unit} :
    Run (ensure c e : Fallible I ε Unit).run τ r ↔
      τ = [] ∧ r = if c then .ok () else .error e := by
  unfold ensure
  split_ifs <;> simp

theorem run_ask_result_iff {o : I.Op} {f : I.Answer o → Except ε α} {r : Except ε α} :
    Run (ExceptT.lift (Prog.ask o) >>= fun a => result (f a) : Fallible I ε α).run τ r ↔
      ∃ a, τ = [⟨o, a⟩] ∧ r = f a := by
  rw [run_fallible_bind_iff]
  constructor
  · rintro (⟨e, rfl, h⟩ | ⟨τ₁, a, τ₂, rfl, h₁, h₂⟩)
    · obtain ⟨a, -, ha⟩ := run_lift_iff.mp h
      cases ha
    · obtain ⟨rfl, rfl⟩ := run_result_iff.mp h₂
      rw [run_ask_iff.mp (run_lift_ok_iff.mp h₁)]
      exact ⟨a, rfl, rfl⟩
  · rintro ⟨a, rfl, rfl⟩
    exact .inr ⟨_, a, [], rfl, run_lift_ok_iff.mpr (run_ask_iff.mpr rfl),
      run_result_iff.mpr ⟨rfl, rfl⟩⟩

theorem run_ensure_ok_iff {c : Prop} [Decidable c] {e : ε} {u : Unit} :
    Run (ensure c e : Fallible I ε Unit).run τ (.ok u) ↔ τ = [] ∧ c := by
  rw [run_ensure_iff]
  split_ifs with h <;> simp [h]

theorem run_ensure_seq_iff {c : Prop} [Decidable c] {e : ε} {f : Unit → Fallible I ε α}
    {r : Except ε α} : Run (ensure c e >>= f).run τ r ↔
      (¬ c ∧ τ = [] ∧ r = .error e) ∨ c ∧ Run (f ()).run τ r := by
  unfold ensure
  split_ifs with hc
  · simp [hc]
  · rw [run_fallible_bind_iff]
    simp only [hc, not_false_iff, true_and, false_and, or_false]
    constructor
    · rintro (⟨e', rfl, h⟩ | ⟨τ₁, _, τ₂, -, h, -⟩)
      · obtain ⟨rfl, he⟩ := run_throw_iff.mp h
        exact ⟨rfl, congrArg _ (Except.error.inj he)⟩
      · cases (run_throw_iff.mp h).2
    · rintro ⟨rfl, rfl⟩
      exact .inl ⟨e, rfl, run_throw_iff.mpr ⟨rfl, rfl⟩⟩

theorem run_result_seq_iff {x : Except ε β} {f : β → Fallible I ε α} {r : Except ε α} :
    Run (result x >>= f).run τ r ↔
      (∃ e, x = .error e ∧ τ = [] ∧ r = .error e) ∨ ∃ b, x = .ok b ∧ Run (f b).run τ r := by
  rw [run_fallible_bind_iff]
  constructor
  · rintro (⟨e, rfl, h⟩ | ⟨τ₁, b, τ₂, rfl, h₁, h₂⟩)
    · obtain ⟨rfl, rfl⟩ := run_result_iff.mp h
      exact .inl ⟨e, rfl, rfl, rfl⟩
    · obtain ⟨rfl, rfl⟩ := run_result_iff.mp h₁
      exact .inr ⟨b, rfl, h₂⟩
  · rintro (⟨e, rfl, rfl, rfl⟩ | ⟨b, rfl, h⟩)
    · exact .inl ⟨e, rfl, run_result_iff.mpr ⟨rfl, rfl⟩⟩
    · exact .inr ⟨[], b, τ, rfl, run_result_iff.mpr ⟨rfl, rfl⟩, h⟩

theorem run_ensure_seq_ok_iff {c : Prop} [Decidable c] {e : ε} {f : Unit → Fallible I ε α} {a : α} :
    Run (ensure c e >>= f).run τ (.ok a) ↔ c ∧ Run (f ()).run τ (.ok a) := by
  rw [run_ensure_seq_iff]
  simp

theorem run_result_seq_ok_iff {x : Except ε β} {f : β → Fallible I ε α} {a : α} :
    Run (result x >>= f).run τ (.ok a) ↔ ∃ b, x = .ok b ∧ Run (f b).run τ (.ok a) := by
  rw [run_result_seq_iff]
  simp

theorem run_forM_ok {γ : Type} {f : γ → Fallible I ε Unit} {cs : List γ} {u : Unit}
    (h : Run (cs.forM f).run τ (.ok u)) : ∀ c ∈ cs, ∃ τ', Run (f c).run τ' (.ok ()) := by
  induction cs generalizing τ with
  | nil => exact List.forall_mem_nil _
  | cons c cs ih =>
    change Run (f c >>= fun _ => cs.forM f).run τ (.ok u) at h
    obtain ⟨τ₁, _, τ₂, rfl, h₁, h₂⟩ := run_fallible_bind_ok_iff.mp h
    exact List.forall_mem_cons.mpr ⟨⟨τ₁, h₁⟩, ih h₂⟩

end FallibleRun

/-! ## Handlers -/

/-- One environment: it answers each call and moves to its next state. -/
abbrev Handler (I : Interface) (σ : Type) : Type := (o : I.Op) → σ → I.Answer o × σ

variable {σ : Type}

/-- Run a program against a handler; `none` when it diverges. -/
def exec (h : Handler I σ) : Prog I α → σ → Option (α × List (Event I) × σ)
  | .pure a, s => some (a, [], s)
  | .call o k, s =>
    (exec h (k (h o s).1) (h o s).2).map fun (a, τ, s') => (a, ⟨o, (h o s).1⟩ :: τ, s')
  | .diverge, _ => none

section Exec

variable {h : Handler I σ}

@[simp] theorem exec_pure {a : α} {s : σ} : exec h (pure a : Prog I α) s = some (a, [], s) := rfl

@[simp] theorem exec_ask {o : I.Op} {s : σ} :
    exec h (Prog.ask o) s = some ((h o s).1, [⟨o, (h o s).1⟩], (h o s).2) := rfl

theorem exec_bind {x : Prog I α} {f : α → Prog I β} {s : σ} :
    exec h (x >>= f) s = (exec h x s).bind fun (a, τ, s') =>
      (exec h (f a) s').map fun (b, τ', s'') => (b, τ ++ τ', s'') := by
  change exec h (x.bind f) s = _
  induction x generalizing s with
  | pure a => simp [Prog.bind, exec]
  | call o k ih =>
    simp only [Prog.bind, exec, ih]
    cases exec h (k (h o s).1) (h o s).2 <;> simp [Function.comp_def]
  | diverge => rfl

/-- What a handler produces is a run of the program. -/
theorem run_of_exec {x : Prog I α} {s s' : σ} {τ : List (Event I)} {a : α}
    (he : exec h x s = some (a, τ, s')) : Run x τ a := by
  induction x generalizing s τ with
  | pure b =>
    simp only [exec, Option.some.injEq, Prod.mk.injEq] at he
    obtain ⟨rfl, rfl, -⟩ := he
    exact .pure b
  | call o k ih =>
    simp only [exec, Option.map_eq_some_iff, Prod.exists, Prod.mk.injEq] at he
    obtain ⟨a', τ', s'', hk, rfl, rfl, rfl⟩ := he
    exact .call _ (ih _ hk)
  | diverge => simp [exec] at he

/-- A test that the execution passes is passed by a run. -/
theorem exists_run_of_any {x : Prog I α} {s : σ} {p : α × List (Event I) × σ → Bool}
    (hany : (exec h x s).any p = true) : ∃ a τ s', Run x τ a ∧ p (a, τ, s') = true := by
  obtain ⟨⟨a, τ, s'⟩, he, hp⟩ := Option.any_eq_true _ _ |>.mp hany
  exact ⟨a, τ, s', run_of_exec he, hp⟩

theorem answer_of_exec {x : Prog I α} {s s' : σ} {τ : List (Event I)} {a : α} {o : I.Op}
    {r : I.Answer o} (he : exec h x s = some (a, ⟨o, r⟩ :: τ, s')) : r = (h o s).1 := by
  cases x with
  | pure b => simp [exec] at he
  | call o' k =>
    simp only [exec, Option.map_eq_some_iff, Prod.exists, Prod.mk.injEq] at he
    obtain ⟨a', τ', s'', -, -, heq, -⟩ := he
    obtain ⟨hevent, -⟩ := List.cons.inj heq
    obtain ⟨rfl, hr⟩ := Sigma.mk.inj hevent
    exact (eq_of_heq hr).symm
  | diverge => simp [exec] at he

/-- Every event of an execution is the handler's answer from some state. -/
theorem answers_of_exec {x : Prog I α} {s s' : σ} {τ : List (Event I)} {a : α}
    (he : exec h x s = some (a, τ, s')) : ∀ e ∈ τ, ∃ t, e.2 = (h e.1 t).1 := by
  induction x generalizing s τ with
  | pure b =>
    simp only [exec, Option.some.injEq, Prod.mk.injEq] at he
    obtain ⟨-, rfl, -⟩ := he
    nofun
  | call o k ih =>
    simp only [exec, Option.map_eq_some_iff, Prod.exists, Prod.mk.injEq] at he
    obtain ⟨a', τ', s'', hk, rfl, rfl, rfl⟩ := he
    exact List.forall_mem_cons.mpr ⟨⟨s, rfl⟩, ih _ hk⟩
  | diverge => simp [exec] at he

theorem exec_seq_some {x : Fallible I ε α} {f : α → Fallible I ε β} {s s' : σ}
    {τ : List (Event I)} {r : Except ε β} (he : exec h (x >>= f).run s = some (r, τ, s')) :
    (∃ e, r = .error e ∧ exec h x.run s = some (.error e, τ, s')) ∨
      ∃ a τ₁ t τ₂, exec h x.run s = some (.ok a, τ₁, t) ∧
        exec h (f a).run t = some (r, τ₂, s') ∧ τ = τ₁ ++ τ₂ := by
  simp only [ExceptT.run_bind, exec_bind, Option.bind_eq_some_iff, Option.map_eq_some_iff,
    Prod.exists, Prod.mk.injEq] at he
  obtain ⟨o, τ₁, t, hx, r', τ₂, t', hf, rfl, rfl, rfl⟩ := he
  cases o with
  | error e =>
    simp only [exec_pure, Option.some.injEq, Prod.mk.injEq] at hf
    obtain ⟨rfl, rfl, rfl⟩ := hf
    exact .inl ⟨e, rfl, by simpa using hx⟩
  | ok a => exact .inr ⟨a, τ₁, t, τ₂, hx, hf, rfl⟩

end Exec

end Interaction
