import FreemkvUnlock.Interaction.Stateful

/-! # The iterations of a loop

A completed loop is a chain of iterations that yielded nothing, and one more that ended it. A
history that every iteration extends describes the chain from the outside.
-/

namespace Interaction.Stateful

variable {I : Interface} {σ ε α : Type} {body : Stateful I σ ε (Option α)} {s s' t u : σ}
  {τ τ₁ τ₂ : List (Event I)} {n fuel : ℕ}

inductive Rounds (body : Stateful I σ ε (Option α)) : ℕ → σ → List (Event I) → σ → Prop
  | zero (s : σ) : Rounds body 0 s [] s
  | succ {n : ℕ} {s t u : σ} {τ₁ τ₂ : List (Event I)} :
      Rounds body n s τ₁ t → Run (prog body t) τ₂ (.ok none, u) →
        Rounds body (n + 1) s (τ₁ ++ τ₂) u

theorem rounds_zero_iff : Rounds body 0 s τ u ↔ τ = [] ∧ u = s :=
  ⟨fun h => by cases h; exact ⟨rfl, rfl⟩, by rintro ⟨rfl, rfl⟩; exact .zero u⟩

theorem rounds_succ_iff : Rounds body (n + 1) s τ u ↔ ∃ τ₁ t τ₂, τ = τ₁ ++ τ₂ ∧
    Rounds body n s τ₁ t ∧ Run (prog body t) τ₂ (.ok none, u) :=
  ⟨fun h => by cases h with | succ h₁ h₂ => exact ⟨_, _, _, rfl, h₁, h₂⟩,
    by rintro ⟨τ₁, t, τ₂, rfl, h₁, h₂⟩; exact .succ h₁ h₂⟩

theorem rounds_cons_iff : Rounds body (n + 1) s τ u ↔ ∃ τ₁ t τ₂, τ = τ₁ ++ τ₂ ∧
    Run (prog body s) τ₁ (.ok none, t) ∧ Rounds body n t τ₂ u := by
  induction n generalizing τ u with
  | zero => simp [rounds_succ_iff, rounds_zero_iff]
  | succ n ih =>
    rw [rounds_succ_iff]
    constructor
    · rintro ⟨τ', v, τ₃, rfl, h, hlast⟩
      obtain ⟨τ₁, t, τ₂, rfl, hfirst, hrest⟩ := ih.mp h
      exact ⟨τ₁, t, τ₂ ++ τ₃, by simp, hfirst, .succ hrest hlast⟩
    · rintro ⟨τ₁, t, τ', rfl, hfirst, h⟩
      obtain ⟨τ₂, v, τ₃, rfl, hrest, hlast⟩ := rounds_succ_iff.mp h
      exact ⟨τ₁ ++ τ₂, v, τ₃, by simp, ih.mpr ⟨τ₁, t, τ₂, rfl, hfirst, hrest⟩, hlast⟩

def yielded : Except ε α → Except ε (Option α)
  | .ok a => .ok (some a)
  | .error e => .error e

/-- A completed loop ran some iterations that yielded nothing, and one that ended it. -/
theorem run_retry_iff {r : Except ε α} :
    Run (prog (retry body fuel) s) τ (r, s') ↔ ∃ n < fuel, ∃ τ₁ t τ₂, τ = τ₁ ++ τ₂ ∧
      Rounds body n s τ₁ t ∧ Run (prog body t) τ₂ (yielded r, s') := by
  induction fuel generalizing s τ with
  | zero =>
    exact ⟨fun h => absurd h not_run_diverge, fun ⟨_, hn, _⟩ => absurd hn (Nat.not_lt_zero _)⟩
  | succ fuel ih =>
    rw [run_retry_succ_iff]
    constructor
    · rintro (⟨e, rfl, h⟩ | ⟨a, rfl, h⟩ | ⟨τ₁, t, τ₂, rfl, h₁, h₂⟩)
      · exact ⟨0, Nat.succ_pos fuel, [], s, τ, rfl, .zero s, h⟩
      · exact ⟨0, Nat.succ_pos fuel, [], s, τ, rfl, .zero s, h⟩
      · obtain ⟨n, hn, τ₃, u, τ₄, rfl, hrounds, hlast⟩ := ih.mp h₂
        exact ⟨n + 1, Nat.succ_lt_succ hn, τ₁ ++ τ₃, u, τ₄, by simp,
          rounds_cons_iff.mpr ⟨τ₁, t, τ₃, rfl, h₁, hrounds⟩, hlast⟩
    · rintro ⟨_ | n, hn, τ', u, τ₃, rfl, hrounds, hlast⟩
      · obtain ⟨rfl, rfl⟩ := rounds_zero_iff.mp hrounds
        cases r with
        | error e => exact .inl ⟨e, rfl, hlast⟩
        | ok a => exact .inr (.inl ⟨a, rfl, hlast⟩)
      · obtain ⟨τ₁, t, τ₂, rfl, hfirst, hrest⟩ := rounds_cons_iff.mp hrounds
        exact .inr (.inr ⟨τ₁, t, τ₂ ++ τ₃, by simp, hfirst,
          ih.mpr ⟨n, Nat.lt_of_succ_lt_succ hn, τ₂, u, τ₃, rfl, hrest, hlast⟩⟩)

end Interaction.Stateful
