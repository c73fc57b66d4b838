import Mathlib.Logic.Relation

/-! # Walks and cuts

Nodes cut a target off when every walk to it visits one of them. To see that, take out what leads
on from them and look whether the target can still be reached.
-/

namespace Graph

open Relation

variable {α : Type} {r r' : α → α → Prop} {a b c x : α} {p q : List α} {K : α → Prop}

inductive Walk (r : α → α → Prop) : α → List α → α → Prop
  | single (a : α) : Walk r a [a] a
  | cons {a b c : α} {p : List α} : r a b → Walk r b p c → Walk r a (a :: p) c

namespace Walk

theorem reaches (h : Walk r a p b) : ReflTransGen r a b := by
  induction h with
  | single => exact .refl
  | cons hr _ ih => exact .head hr ih

theorem split (h : Walk r a p b) (hx : x ∈ p) : ∃ q p', p = q ++ p' ∧ Walk r x p' b ∧
    ReflTransGen r a x := by
  induction h with
  | single a =>
    obtain rfl := List.mem_singleton.mp hx
    exact ⟨[], [x], rfl, .single x, .refl⟩
  | @cons a b c p hr hw ih =>
    rcases List.mem_cons.mp hx with rfl | hx
    · exact ⟨[], x :: p, rfl, .cons hr hw, .refl⟩
    · obtain ⟨q, p', rfl, hw', hreach⟩ := ih hx
      exact ⟨a :: q, p', rfl, hw', .head hr hreach⟩

theorem next (h : Walk r a p b) (hne : a ≠ b) (honly : ∀ c, r a c → c = x) :
    ∃ q, p = a :: q ∧ Walk r x q b := by
  cases h with
  | single => exact absurd rfl hne
  | cons hr hw => exact ⟨_, rfl, honly _ hr ▸ hw⟩

theorem eq_of_end (h : Walk r a p b) (hend : ∀ c, ¬ r a c) : p = [a] ∧ b = a := by
  cases h with
  | single => exact ⟨rfl, rfl⟩
  | cons hr _ => exact absurd hr (hend _)

/-- A walk that visits no cut node is still one after the cut. -/
theorem of_cut (h : Walk r a p b) (hentry : ReflTransGen r x a)
    (hcut : ∀ c d, ReflTransGen r x c → ¬ K c → r c d → r' c d) (hp : ∀ c ∈ p, ¬ K c) :
    Walk r' a p b := by
  induction h with
  | single a => exact .single a
  | @cons a b c p hr hw ih =>
    exact .cons (hcut a b hentry (hp a List.mem_cons_self) hr)
      (ih (hentry.tail hr) fun d hd => hp d (List.mem_cons_of_mem a hd))

/-- If the cut puts the target out of reach, every walk to it visits a cut node. -/
theorem visits (h : Walk r a p b)
    (hcut : ∀ c d, ReflTransGen r a c → ¬ K c → r c d → r' c d)
    (hbypass : ¬ ReflTransGen r' a b) : ∃ c ∈ p, K c :=
  Classical.byContradiction fun hnone =>
    hbypass (h.of_cut .refl hcut fun c hc hk => hnone ⟨c, hc, hk⟩).reaches

end Walk

/-! ## Exploration -/

section Explore

variable [DecidableEq α] {succ : α → List α}

/-- Visit the nodes still to do and what they lead to, as long as the budget lasts. -/
def explore (succ : α → List α) : Nat → List α → List α → Option (List α)
  | 0, _, _ => none
  | _ + 1, seen, [] => some seen
  | n + 1, seen, a :: todo =>
    if a ∈ seen then explore succ n seen todo
    else explore succ n (seen ++ [a]) (succ a ++ todo)

theorem explore_reaches {n : Nat} {seen todo xs : List α} (h : explore succ n seen todo = some xs)
    {P : α → Prop} (hP : ∀ c d, P c → d ∈ succ c → P d) (hseen : ∀ c ∈ seen, P c)
    (htodo : ∀ c ∈ todo, P c) : ∀ c ∈ xs, P c := by
  induction n generalizing seen todo with
  | zero => cases h
  | succ n ih =>
    cases todo with
    | nil => exact Option.some.inj h ▸ hseen
    | cons a todo =>
      rw [explore] at h
      have ha := htodo a List.mem_cons_self
      split at h
      · exact ih h hseen fun c hc => htodo c (List.mem_cons_of_mem a hc)
      · refine ih h (fun c hc => ?_) fun c hc => ?_
        · rcases List.mem_append.mp hc with hc | hc
          · exact hseen c hc
          · exact List.mem_singleton.mp hc ▸ ha
        · rcases List.mem_append.mp hc with hc | hc
          · exact hP a c ha hc
          · exact htodo c (List.mem_cons_of_mem a hc)

/-- What is seen or still to do stays so, and in the end nothing leads out of what is seen. -/
theorem explore_closed {n : Nat} {seen todo xs : List α} (h : explore succ n seen todo = some xs)
    (hseen : ∀ c ∈ seen, ∀ d ∈ succ c, d ∈ seen ∨ d ∈ todo) :
    (∀ c, c ∈ seen ∨ c ∈ todo → c ∈ xs) ∧ ∀ c ∈ xs, ∀ d ∈ succ c, d ∈ xs := by
  induction n generalizing seen todo with
  | zero => cases h
  | succ n ih =>
    cases todo with
    | nil =>
      obtain rfl := Option.some.inj h
      exact ⟨fun c hc => hc.resolve_right List.not_mem_nil,
        fun c hc d hd => (hseen c hc d hd).resolve_right List.not_mem_nil⟩
    | cons a todo =>
      rw [explore] at h
      split at h
      · rename_i ha
        have hkeep {d : α} : d ∈ seen ∨ d ∈ a :: todo → d ∈ seen ∨ d ∈ todo := fun hd =>
          hd.elim .inl fun hd => (List.mem_cons.mp hd).elim (fun he => .inl (he ▸ ha)) .inr
        obtain ⟨hin, hclosed⟩ := ih h fun c hc d hd => hkeep (hseen c hc d hd)
        exact ⟨fun c hc => hin c (hkeep hc), hclosed⟩
      · have hkeep {d : α} : d ∈ seen ∨ d ∈ a :: todo → d ∈ seen ++ [a] ∨ d ∈ succ a ++ todo :=
          fun hd => hd.elim (fun hd => .inl (List.mem_append_left _ hd)) fun hd =>
            (List.mem_cons.mp hd).elim
              (fun he => .inl (he ▸ List.mem_append_right _ List.mem_cons_self))
              fun hd => .inr (List.mem_append_right _ hd)
        obtain ⟨hin, hclosed⟩ := ih h fun c hc d hd => by
          rcases List.mem_append.mp hc with hc | hc
          · exact hkeep (hseen c hc d hd)
          · obtain rfl := List.mem_singleton.mp hc
            exact .inr (List.mem_append_left _ hd)
        exact ⟨fun c hc => hin c (hkeep hc), hclosed⟩

/-- A finished exploration has seen exactly what can be reached. -/
theorem mem_explore_iff {n : Nat} {entry : α} {xs : List α}
    (h : explore succ n [] [entry] = some xs) (x : α) :
    x ∈ xs ↔ ReflTransGen (fun c d => d ∈ succ c) entry x := by
  constructor
  · exact explore_reaches h (fun c d hc hd => hc.tail hd) nofun
      (fun c hc => List.mem_singleton.mp hc ▸ .refl) x
  · obtain ⟨hin, hclosed⟩ := explore_closed h nofun
    intro hx
    induction hx with
    | refl => exact hin entry (.inr List.mem_cons_self)
    | tail _ hd ih => exact hclosed _ ih _ hd

end Explore

end Graph
