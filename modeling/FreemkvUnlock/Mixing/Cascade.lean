import Mathlib.Algebra.Order.BigOperators.Group.Finset
import Mathlib.Data.Fintype.BigOperators
import Mathlib.Data.Set.Card

/-! # Cascaded substitutions

A row of cells is substituted cell by cell, each cell under the one after it. Such a step loses
nothing when every substitution is injective, and a substitution that merges `k` values into one
merges `k ^ n` rows of `n` cells.
-/

namespace Mixing

variable {α β γ : Type} {n k : ℕ}

def cells : Vector α n ≃ (Fin n → α) where
  toFun v i := v[i]
  invFun := Vector.ofFn
  left_inv v := Vector.ext fun i hi => by simp
  right_inv f := funext fun i => by simp

instance instFiniteVector [Finite α] : Finite (Vector α n) := Finite.of_equiv _ cells.symm

/-- Each cell is substituted under the next one, the last under `z`. -/
def cascade (g : Fin n → α → α → β) (z : α) (v : Vector α n) : Vector β n :=
  Vector.ofFn fun i => g i v[i] (if h : i.val + 1 < n then v[i.val + 1] else z)

/-- The last cell is undone first; each cell then shows what the one before it was under. -/
theorem cascade_injective {g : Fin n → α → α → β} {z : α}
    (hg : ∀ i t, Function.Injective fun a => g i a t) : Function.Injective (cascade g z) := by
  intro v w h
  have hcell (i : ℕ) (hi : i < n) : v[i] = w[i] := by
    induction hk : n - i generalizing i with
    | zero => omega
    | succ k ih =>
      have hat := congrArg (·[i]) h
      simp only [cascade, Vector.getElem_ofFn] at hat
      split_ifs at hat with hnext
      · have hafter : v[i + 1] = w[i + 1] := ih (i + 1) hnext (by omega)
        rw [hafter] at hat
        exact hg _ _ hat
      · exact hg _ _ hat
  exact Vector.ext hcell

theorem cascade_bijective [Finite α] {g : Fin n → α → α → α} {z : α}
    (hg : ∀ i t, Function.Injective fun a => g i a t) : Function.Bijective (cascade g z) :=
  Finite.injective_iff_bijective.mp (cascade_injective hg)

/-! ## Fibres -/

/-- `f` merges exactly `k` inputs into each of its values. -/
def Merges (f : α → β) (k : ℕ) : Prop := ∀ x, {y | f y = f x}.ncard = k

theorem Merges.comp_bijective {f : β → γ} {b : α → β} (hf : Merges f k)
    (hb : Function.Bijective b) : Merges (f ∘ b) k := by
  intro x
  have := Set.ncard_preimage_of_injective_subset_range hb.1
    (s := {y | f y = f (b x)}) (by simp [hb.2.range_eq])
  rw [← hf (b x), ← this]
  rfl

/-- What comes after cannot tell merged inputs apart again. -/
theorem Merges.le_comp [Finite α] {f : α → β} (hf : Merges f k) (g : β → γ) (x : α) :
    k ≤ {y | g (f y) = g (f x)}.ncard := by
  rw [← hf x]
  exact Set.ncard_le_ncard fun y (hy : f y = f x) => congrArg g hy

/-- Two steps merge at most the product. -/
theorem Merges.comp_le [Finite α] [Finite β] {f : α → β} {g : β → γ} {l : ℕ} (hf : Merges f k)
    (hg : Merges g l) (x : α) : {y | g (f y) = g (f x)}.ncard ≤ k * l := by
  classical
  have := Fintype.ofFinite α
  have := Fintype.ofFinite β
  let s : Finset α := Finset.univ.filter fun y => g (f y) = g (f x)
  have hs : {y | g (f y) = g (f x)}.ncard = s.card := by
    rw [← Set.ncard_coe_finset]
    simp [s]
  have himage : (s.image f).card ≤ l := by
    rw [← hg (f x), ← Set.ncard_coe_finset]
    refine Set.ncard_le_ncard fun b hb => ?_
    obtain ⟨y, hy, rfl⟩ := Finset.mem_image.mp hb
    exact (Finset.mem_filter.mp hy).2
  have hfibre : ∀ b ∈ s.image f, (s.filter fun y => f y = b).card ≤ k := by
    intro b hb
    obtain ⟨y, -, rfl⟩ := Finset.mem_image.mp hb
    rw [← hf y, ← Set.ncard_coe_finset]
    exact Set.ncard_le_ncard fun z hz => (Finset.mem_filter.mp hz).2
  rw [hs]
  exact (Finset.card_le_mul_card_image s k hfibre).trans (Nat.mul_le_mul_left k himage)

theorem map_eq_map_iff {f : α → β} {v w : Vector α n} :
    w.map f = v.map f ↔ ∀ i, f (cells w i) = f (cells v i) := by
  constructor
  · intro h i
    simpa [cells] using congrArg (·[i]) h
  · intro h
    exact Vector.ext fun i hi => by simpa [cells] using h ⟨i, hi⟩

theorem Merges.map {f : α → β} (hf : Merges f k) :
    Merges (fun v : Vector α n => v.map f) (k ^ n) := by
  intro v
  have e : {w : Vector α n | w.map f = v.map f} ≃ ∀ i, {y | f y = f (cells v i)} :=
    (cells.subtypeEquiv fun w => map_eq_map_iff).trans Equiv.subtypePiEquivPi
  calc {w : Vector α n | w.map f = v.map f}.ncard
      = Nat.card (∀ i, {y | f y = f (cells v i)}) := Nat.card_congr e
    _ = ∏ i, {y | f y = f (cells v i)}.ncard := Nat.card_pi
    _ = k ^ n := by
      simp only [hf (cells v _), Finset.prod_const, Finset.card_univ, Fintype.card_fin]

end Mixing
