import Mathlib.Data.List.Basic
import Mathlib.Tactic.Common

/-! # Listings

Programs as lists of operations, labels and conditional branches to labels, over any states. What
is left to run is a suffix of the listing, so a branch goes to what follows its label. The rules
for `Ends` carry a property of the exit from the exits back to the first line.
-/

namespace Listing

variable {O K L S R : Type}

inductive Line (O K L : Type)
  | op (o : O)
  | label (l : L)
  | branch (k : K) (l : L)

/-- An operation goes on in a new state or leaves the listing with a result. -/
structure Machine (O K S R : Type) where
  exec : O → S → S ⊕ R
  holds : K → S → Bool

/-- What follows a label. -/
def after [DecidableEq L] (l : L) : List (Line O K L) → Option (List (Line O K L))
  | [] => none
  | .label l' :: rest => if l' = l then some rest else after l rest
  | .op _ :: rest | .branch _ _ :: rest => after l rest

variable [DecidableEq L] (M : Machine O K S R) (prog : List (Line O K L))

/-- Run at most `n` lines; a run off the end or to a missing label has no result. -/
def run : ℕ → List (Line O K L) → S → Option R
  | 0, _, _ | _ + 1, [], _ => none
  | n + 1, .op o :: rest, s => (M.exec o s).elim (run n rest) some
  | n + 1, .label _ :: rest, s => run n rest s
  | n + 1, .branch k l :: rest, s =>
    if M.holds k s then (after l prog).bind (run n · s) else run n rest s

/-- The run from these lines leaves the listing with a result in `Q`. -/
def Ends (Q : R → Prop) (code : List (Line O K L)) (s : S) : Prop :=
  ∃ n r, run M prog n code s = some r ∧ Q r

variable {M prog} {Q Q' : R → Prop} {code rest : List (Line O K L)} {s t : S} {o : O} {k : K}
  {l : L} {r r' : R} {n m : ℕ}

/-! ## Running -/

theorem run_succ (h : run M prog n code s = some r) : run M prog (n + 1) code s = some r := by
  induction n generalizing code s with
  | zero => cases h
  | succ n ih =>
    cases code with
    | nil => cases h
    | cons line rest =>
      cases line with
      | op o =>
        rw [run] at h ⊢
        cases hx : M.exec o s with
        | inl t =>
          rw [hx] at h
          exact ih h
        | inr r' =>
          rw [hx] at h
          exact h
      | label l => exact ih h
      | branch k l =>
        rw [run] at h ⊢
        split_ifs at h ⊢
        · obtain ⟨code, hcode, h⟩ := Option.bind_eq_some_iff.mp h
          exact Option.bind_eq_some_iff.mpr ⟨code, hcode, ih h⟩
        · exact ih h

theorem run_mono (h : run M prog n code s = some r) (hn : n ≤ m) :
    run M prog m code s = some r := by
  induction hn with
  | refl => exact h
  | step _ ih => exact run_succ ih

theorem run_unique (h : run M prog n code s = some r) (h' : run M prog m code s = some r') :
    r = r' :=
  Option.some.inj ((run_mono h (Nat.le_max_left n m)).symm.trans
    (run_mono h' (Nat.le_max_right n m)))

/-- A listing that ends in `Q` ends in nothing else. -/
theorem Ends.of_run (h : Ends M prog Q code s) (hr : run M prog n code s = some r) : Q r := by
  obtain ⟨m, r', hr', hq⟩ := h
  exact run_unique hr hr' ▸ hq

/-! ## Rules -/

theorem Ends.mono (h : Ends M prog Q code s) (hQ : ∀ r, Q r → Q' r) : Ends M prog Q' code s := by
  obtain ⟨n, r, hr, hq⟩ := h
  exact ⟨n, r, hr, hQ r hq⟩

theorem Ends.op (hx : M.exec o s = .inl t) (h : Ends M prog Q rest t) :
    Ends M prog Q (.op o :: rest) s := by
  obtain ⟨n, r, hr, hq⟩ := h
  refine ⟨n + 1, r, ?_, hq⟩
  rw [run, hx]
  exact hr

theorem Ends.leave (hx : M.exec o s = .inr r) (hq : Q r) : Ends M prog Q (.op o :: rest) s := by
  refine ⟨1, r, ?_, hq⟩
  rw [run, hx]
  rfl

theorem Ends.label (h : Ends M prog Q rest s) : Ends M prog Q (.label l :: rest) s := by
  obtain ⟨n, r, hr, hq⟩ := h
  exact ⟨n + 1, r, hr, hq⟩

theorem Ends.branch (hl : after l prog = some code)
    (htaken : M.holds k s = true → Ends M prog Q code s)
    (hpassed : M.holds k s = false → Ends M prog Q rest s) :
    Ends M prog Q (.branch k l :: rest) s := by
  cases hk : M.holds k s with
  | true =>
    obtain ⟨n, r, hr, hq⟩ := htaken hk
    refine ⟨n + 1, r, ?_, hq⟩
    rw [run, if_pos hk, hl]
    exact hr
  | false =>
    obtain ⟨n, r, hr, hq⟩ := hpassed hk
    refine ⟨n + 1, r, ?_, hq⟩
    rw [run, if_neg (hk ▸ Bool.false_ne_true)]
    exact hr

/-- Lines written out once for each number below `n` carry a counted invariant along. -/
theorem Ends.steps {I : ℕ → S → Prop} {f : ℕ → List (Line O K L)} {n : ℕ} (h : I 0 s)
    (hstep : ∀ i < n, ∀ s rest, I i s → (∀ t, I (i + 1) t → Ends M prog Q rest t) →
      Ends M prog Q (f i ++ rest) s)
    (hnext : ∀ t, I n t → Ends M prog Q rest t) :
    Ends M prog Q ((List.range n).flatMap f ++ rest) s := by
  induction n generalizing rest with
  | zero => exact hnext s h
  | succ n ih =>
    rw [List.range_succ, List.flatMap_append, List.flatMap_singleton, List.append_assoc]
    exact ih (fun i hi => hstep i (Nat.lt_succ_of_lt hi)) fun t ht =>
      hstep n n.lt_succ_self t rest ht hnext

end Listing
