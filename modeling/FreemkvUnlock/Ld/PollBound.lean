import FreemkvUnlock.Ld.ReadinessRule
import FreemkvUnlock.Ld.Termination

/-! # How long the readiness poll goes on

Between two new answers the poll goes on for as many polls as fit into the window, so it is the
number of different answers that bounds it. A drive that flaps between known ones is given up.
-/

namespace FreemkvUnlock.Ld

open Interaction Fallible

def windowPolls : ℕ := readyStall / nanos readyPollMs

section Bound

variable {past : List Pending} {p : Pending} {τ : List (Event Scsi)} {clock u v : ℕ}

def distinct (as : List ScsiSense) : ℕ := as.toFinset.card

theorem distinct_snoc_new {as : List ScsiSense} {a : ScsiSense} (h : a ∉ as) :
    distinct (as ++ [a]) = distinct as + 1 := by
  unfold distinct
  rw [List.toFinset_append, Finset.union_comm]
  simpa using Finset.card_insert_of_notMem (by simpa using h)

theorem distinct_mono {as as' : List ScsiSense} (h : as ⊆ as') : distinct as ≤ distinct as' :=
  Finset.card_le_card fun _ ha => List.mem_toFinset.mpr (h (List.mem_toFinset.mp ha))

/-- There are no more answers than there are codes. -/
theorem distinct_le (as : List ScsiSense) : distinct as ≤ 2 ^ 24 := by
  have himage : (as.toFinset.image answerCode).card = distinct as :=
    Finset.card_image_of_injective _ answerCode_injective
  rw [← himage]
  exact (Finset.card_le_univ _).trans (by simp)

theorem distinct_snoc_old {as : List ScsiSense} {a : ScsiSense} (h : a ∈ as) :
    distinct (as ++ [a]) = distinct as := by
  unfold distinct
  congr 1
  ext b
  simp only [List.mem_toFinset, List.mem_append, List.mem_singleton]
  exact or_iff_left_of_imp fun hb => hb ▸ h

/-- A poll that decides nothing reads the clock and then waits. -/
theorem time_passes (h : Passes clock past p τ) (hf : timed.Follows u τ v) (hclock : clock ≤ u) :
    u ≤ clock + p.time ∧ clock + p.time + nanos readyPollMs ≤ v ∧
      ¬ Stalled past p.answer p.time := by
  obtain @⟨o, answer, τ₀, t, -, -, -, hst⟩ := h
  have hwait := wait_of_follows (show timed.Follows u ((polled o :: τ₀) ++
    ⟨.now, t⟩ :: ([] ++ [⟨.pause readyPollMs, Except.ok ()⟩])) v from hf)
  dsimp only
  exact ⟨by omega, by omega, hst⟩

/-- After the last new answer the repeated ones took their time, and they are no more than fit
into the window; so is it between any two new ones. -/
def Paced (clock : ℕ) (past : List Pending) (v : ℕ) : Prop :=
  ∃ last k, LastNew past last ∧ k ≤ windowPolls ∧
    past.length + windowPolls ≤ distinct (answers past) * (windowPolls + 1) + k ∧
    clock + last + (k + 1) * nanos readyPollMs ≤ v

theorem paced_new (h : past = [] ∨ Paced clock past u) (hp : Passes clock past p τ)
    (hf : timed.Follows u τ v) (hclock : clock ≤ u) (hnew : p.answer ∉ answers past) :
    Paced clock (past ++ [p]) v := by
  obtain ⟨-, hwait, -⟩ := time_passes hp hf hclock
  refine ⟨p.time, 0, .snoc_new hnew, Nat.zero_le _, ?_, by rwa [Nat.zero_add, Nat.one_mul]⟩
  rw [answers_snoc, distinct_snoc_new hnew, List.length_append, List.length_singleton]
  rcases h with rfl | ⟨last, k, -, hk, hlen, -⟩
  · simp [answers, distinct]
    omega
  · rw [Nat.add_mul, Nat.one_mul]
    omega

theorem paced_old (h : Paced clock past u) (hp : Passes clock past p τ)
    (hf : timed.Follows u τ v) (hclock : clock ≤ u) (hold : p.answer ∈ answers past) :
    Paced clock (past ++ [p]) v := by
  obtain ⟨hread, hwait, hst⟩ := time_passes hp hf hclock
  obtain ⟨last, k, hlast, hk, hlen, htime⟩ := h
  have hopen : p.time - last < readyStall := by
    by_contra hclosed
    exact hst ⟨hold, last, hlast, not_lt.mp hclosed⟩
  have hmore : k + 1 ≤ windowPolls := by
    refine (Nat.le_div_iff_mul_le (by decide)).mpr ?_
    omega
  refine ⟨last, k + 1, hlast.snoc_old hold, hmore, ?_, ?_⟩
  · rw [answers_snoc, distinct_snoc_old hold, List.length_append, List.length_singleton]
    omega
  · rw [Nat.add_mul]
    omega

theorem paced_waits (h : Waits clock past τ) (hf : timed.Follows u τ v) (hclock : clock ≤ u) :
    past = [] ∨ Paced clock past v := by
  induction h generalizing v with
  | nil => exact .inl rfl
  | @snoc past p τ₁ τ₂ _ hp ih =>
    obtain ⟨w, hf₁, hf₂⟩ := Contract.follows_append_iff.mp hf
    have hclock' := hclock.trans (le_of_follows hf₁)
    by_cases hmem : p.answer ∈ answers past
    · rcases ih hf₁ with rfl | hpaced
      · cases hmem
      · exact .inr (paced_old hpaced hp hf₂ hclock' hmem)
    · exact .inr (paced_new (ih hf₁) hp hf₂ hclock' hmem)

theorem polls_eq_length (τ : List (Event Scsi)) : polls τ = (pollsIn τ).length :=
  List.countP_eq_length_filter

theorem polls_waits (h : Waits clock past τ) : polls τ = past.length := by
  induction h with
  | nil => rfl
  | snoc _ hp ih =>
    obtain ⟨o, hpolls, -⟩ := pollsIn_passes hp
    rw [polls_eq_length] at ih ⊢
    rw [pollsIn_append, hpolls, List.length_append, ih]
    simp

/-- The different answers, each with its window. -/
theorem polls_le {fuel : ℕ} {r : Except Error MediaReady}
    (h : Run (awaitMediaReady fuel clock).run τ r) (hf : timed.Follows u τ v)
    (hclock : clock ≤ u) : polls τ ≤ (distinct (heard τ) + 1) * (windowPolls + 2) := by
  obtain ⟨t, past, τ₁, τ₂, -, rfl, hwaits, hends⟩ := run_awaitMediaReady_iff.mp h
  have hpolls : polls (clockRead t :: (τ₁ ++ τ₂)) = past.length + 1 := by
    obtain ⟨o, hlast, -⟩ := pollsIn_ends hends
    have hsplit : pollsIn (clockRead t :: (τ₁ ++ τ₂)) = pollsIn τ₁ ++ pollsIn τ₂ :=
      pollsIn_append τ₁ τ₂
    rw [← polls_waits hwaits, polls_eq_length, polls_eq_length, hsplit, hlast]
    simp
  have hheard : heard (clockRead t :: (τ₁ ++ τ₂)) = answers past ++ heard τ₂ := by
    rw [← heard_waits hwaits]
    exact List.filterMap_append
  have hdistinct : distinct (answers past) ≤ distinct (answers past ++ heard τ₂) :=
    distinct_mono (List.subset_append_left _ _)
  obtain ⟨w, hread, hrest⟩ := Contract.follows_cons_iff.mp hf
  obtain ⟨x, hf₁, -⟩ := Contract.follows_append_iff.mp hrest
  rw [hpolls, hheard]
  rcases paced_waits hwaits hf₁ (hclock.trans hread.1) with rfl | ⟨_, k, -, hk, hlen, -⟩
  · exact Nat.succ_le_of_lt (by positivity)
  · calc past.length + 1 ≤ distinct (answers past) * (windowPolls + 1) + 1 := by omega
      _ ≤ distinct (answers past ++ heard τ₂) * (windowPolls + 2) + (windowPolls + 2) := by
        gcongr <;> omega
      _ = _ := by ring

end Bound

/-- Against every drive, under a clock that goes forward and waits that take their time, the
poll ends. The number of polls is bounded by that of the different answers, and so far below
what the loop's counter could run to. -/
theorem awaitMediaReady_terminates {σ : Type} {h : Handler Scsi σ} {time : σ → ℕ}
    (hk : timed.KeptBy h time) (clock : ℕ) (s : σ) (hclock : clock ≤ time s) : ∃ r τ s',
      (∃ N, ∀ fuel ≥ N, exec h (awaitMediaReady fuel clock).run s = some (r, τ, s')) ∧
      polls τ ≤ (distinct (heard τ) + 1) * (readyStall / nanos readyPollMs + 2) ∧
      polls τ < 2 ^ 64 - 1 := by
  obtain ⟨⟨r, τ, s'⟩, N, hN⟩ : SettlesFrom h (fun fuel => (awaitMediaReady fuel clock).run) s :=
    settles_awaitMediaReady hk s
  have hexec := hN N le_rfl
  have hbound := polls_le (run_of_exec hexec) (hk.follows hexec) hclock
  refine ⟨r, τ, s', ⟨N, hN⟩, hbound, hbound.trans_lt ?_⟩
  have hcodes := distinct_le (heard τ)
  have hwindow : windowPolls = 120 := by decide
  rw [hwindow]
  omega

/-- A drive that answers in turn with two states that are not ready, beside a host whose waits
take their time. -/
def flappingDrive : Handler Scsi (Bool × ℕ)
  | .execute _ _ data _, (flip, t) =>
    let sense : Vector UInt8 32 := Vector.ofFn fun i =>
      if i.val = 2 then 2 else if i.val = 12 then 4
      else if i.val = 13 then (if flip then 1 else 4) else 0
    (⟨.ok ⟨2, 0, sense⟩, Vector.replicate data.length 0⟩, !flip, t)
  | .executeCleanup _ _ data _, s =>
    (⟨.ok ⟨0, data.length, Vector.replicate 32 0⟩, Vector.replicate data.length 0⟩, s)
  | .pause ms, (flip, t) => (.ok (), flip, t + nanos ms)
  | .now, (flip, t) => (t, flip, t)
  | .beginCritical, s => (.ok (), s)
  | .endCritical, s => ((), s)
  | .fillBytes n, s => (Vector.replicate n 0, s)
  | .diagnosticMemory _ _ _, s => (.error .other, s)
  | .quietDrive, s => (.failed none, s)

theorem keptBy_flappingDrive : timed.KeptBy flappingDrive Prod.snd := by
  rintro o ⟨flip, t⟩
  cases o with
  | pause ms => exact ⟨Nat.le_add_right t _, fun _ => le_rfl⟩
  | now => exact ⟨le_rfl, le_rfl, le_rfl⟩
  | _ => exact ⟨le_rfl, trivial⟩

theorem awaitMediaReady_terminates_flapping : ∃ r τ s',
    (∃ N, ∀ fuel ≥ N,
      exec flappingDrive (awaitMediaReady fuel 0).run (false, 0) = some (r, τ, s')) ∧
    polls τ ≤ (distinct (heard τ) + 1) * (readyStall / nanos readyPollMs + 2) ∧
    polls τ < 2 ^ 64 - 1 :=
  awaitMediaReady_terminates keptBy_flappingDrive 0 (false, 0) le_rfl

end FreemkvUnlock.Ld
