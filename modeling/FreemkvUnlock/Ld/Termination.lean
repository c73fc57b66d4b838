import FreemkvUnlock.Interaction.Loops
import FreemkvUnlock.Ld.Calibration
import Mathlib.Data.Fintype.Prod
import Mathlib.Data.Fintype.Fin
import Mathlib.Order.Interval.Set.Defs

/-! # Termination of the initialization

Against a clock that goes forward and waits that take their time every loop ends: a re-confirm
read is repeated only within its window, and the readiness poll goes on only while it gets new
answers or its window is open.
-/

namespace FreemkvUnlock.Ld

open Interaction Fallible

/-! ## Time -/

/-- Time goes forward, a reading lies between the beginning and the end of its call, and a wait
that succeeds takes as long as it was asked to. -/
def timed : Contract Scsi ℕ where
  allows u e v := u ≤ v ∧ match e with
    | ⟨.now, t⟩ => (t : ℕ) ∈ Set.Icc u v
    | ⟨.pause ms, r⟩ => (r : Except ScsiError Unit) = .ok () → u + nanos ms ≤ v
    | _ => True

section Time

variable {u v : ℕ} {τ : List (Event Scsi)}

theorem le_of_follows (h : timed.Follows u τ v) : u ≤ v := by
  induction h with
  | nil => exact le_rfl
  | cons ha _ ih => exact ha.1.trans ih

theorem wait_of_follows {t ms : ℕ} {τ₁ τ₂ τ₃ : List (Event Scsi)}
    (h : timed.Follows u (τ₁ ++ ⟨.now, t⟩ :: (τ₂ ++ ⟨.pause ms, Except.ok ()⟩ :: τ₃)) v) :
    u ≤ t ∧ t + nanos ms ≤ v := by
  obtain ⟨w, h₁, h₂⟩ := Contract.follows_append_iff.mp h
  obtain ⟨x, hx, h₃⟩ := Contract.follows_cons_iff.mp h₂
  obtain ⟨y, h₄, h₅⟩ := Contract.follows_append_iff.mp h₃
  obtain ⟨z, hz, h₆⟩ := Contract.follows_cons_iff.mp h₅
  have hpause : y + nanos ms ≤ z := hz.2 rfl
  have := le_of_follows h₁
  have := le_of_follows h₄
  have := le_of_follows h₆
  have hnow : t ∈ Set.Icc w x := hx.2
  have := hnow.1
  have := hnow.2
  exact ⟨by omega, by omega⟩

end Time

variable {σ : Type} {h : Handler Scsi σ} {time : σ → ℕ}

/-! ## Parts without loops -/

section Parts

variable {cdb data : List UInt8} {dir : DataDirection} {t ms : ℕ} {clock : Clock} {mt : Mt1959}
  {x : Step Unit} {opcode mode : UInt8}

theorem settles_issue : Settles h fun _ => (issue cdb dir data t).run :=
  .seq (.lift (.ask _)) fun _ => .result _

theorem settles_elapsed : Settles h fun _ => clock.elapsed.run :=
  .seq (.lift (.ask _)) fun _ => .ret _

theorem settles_wait : Settles h fun _ => (wait ms).run := .seq (.lift (.ask _)) fun _ => .result _

theorem settles_settleAfterUpload : Settles h fun _ => settleAfterUpload.run :=
  .seq (.lift (.ask _)) fun _ => .seq settles_wait fun _ => .ret _

theorem settles_doUnlock : Settles h fun _ => doUnlock.prog mt :=
  Stateful.settles_bind (x := fun _ => get) (.pure _) fun _ _ =>
    Stateful.settles_bind (Stateful.settles_lift settles_issue) fun _ _ =>
    Stateful.settles_bind (Stateful.settles_lift (.result _)) fun _ _ =>
    Stateful.settles_bind (x := fun _ => set _) (.pure _) fun _ _ => Stateful.settles_ret _

theorem settles_confirm : Settles h fun _ => confirm.prog mt :=
  Stateful.settles_bind (Stateful.settles_attempt settles_doUnlock) fun _ _ =>
    Stateful.settles_ret _

theorem settles_unlockRetries (n : ℕ) : ∀ mt, Settles h fun _ => (unlockRetries n).prog mt := by
  induction n with
  | zero => exact fun mt => Stateful.settles_bind settles_doUnlock fun _ _ => Stateful.settles_ret _
  | succ n ih =>
    refine fun mt => Stateful.settles_bind (Stateful.settles_attempt settles_doUnlock) fun r t => ?_
    rcases r with e | response
    · dsimp only
      split_ifs
      · exact Stateful.settles_throw _
      · exact ih t
    · exact settles_confirm

theorem settles_critical (hx : Settles h fun _ => x.run) : Settles h fun _ => (critical x).run := by
  refine .bind (.ask _) fun r => ?_
  rcases r with e | _
  · exact .pure _
  · exact .bind hx fun _ => .bind (.ask _) fun _ => .pure _

theorem settles_traceStep : Settles h fun _ => (traceStep cdb dir data).run :=
  .seq (.lift (.ask _)) fun _ => .result _

theorem settles_upload : Settles h fun _ => (upload opcode mode data).run :=
  .seq settles_issue fun _ => .ret _

theorem settles_loadFirmware : Settles h fun _ => loadFirmware.prog mt := by
  refine Stateful.settles_bind (x := fun _ => get) (.pure _) fun s t => ?_
  split_ifs
  · exact Stateful.settles_bind (x := fun _ => get) (.pure _) fun s t =>
      Stateful.settles_bind (Stateful.settles_lift (.ensure _ _)) fun _ t =>
      Stateful.settles_bind (Stateful.settles_lift (settles_critical
        (.seq settles_upload fun _ => settles_traceStep))) fun _ t =>
      Stateful.settles_bind settles_doUnlock fun _ t => settles_confirm
  · exact Stateful.settles_bind (x := fun _ => get) (.pure _) fun s t =>
      Stateful.settles_bind (Stateful.settles_lift (.ensure _ _)) fun _ t =>
      Stateful.settles_bind (Stateful.settles_lift (settles_critical
        (.seq settles_upload fun _ => .seq settles_traceStep fun _ => .seq settles_traceStep
          fun _ => settles_traceStep))) fun _ t => settles_unlockRetries 5 t

end Parts

/-! ## Re-confirm reads -/

section Reconfirm

variable {clock : Clock} {start : ℕ} {mt mt' : Mt1959} {τ : List (Event Scsi)}

theorem settles_reconfirmOnce : Settles h fun _ => (reconfirmOnce clock start).prog mt := by
  refine Stateful.settles_bind (Stateful.settles_attempt settles_doUnlock) fun r t => ?_
  rcases r with e | response
  · refine Stateful.settles_bind (Stateful.settles_lift settles_elapsed) fun now t => ?_
    split_ifs
    · exact Stateful.settles_bind (Stateful.settles_lift settles_wait) fun _ t =>
        Stateful.settles_ret _
    · exact Stateful.settles_ret _
  · exact Stateful.settles_ret _

/-- An iteration that goes on: a read answered by a restarting drive inside the window, the
reading that showed it, and the pause. -/
theorem run_reconfirmOnce_none
    (hrun : Run ((reconfirmOnce clock start).prog mt) τ (.ok none, mt')) :
    ∃ (e₁ : Event Scsi) (t : ℕ), t - clock - start < readyStall ∧
      τ = [e₁, ⟨.now, t⟩, ⟨.pause reconfirmSensePauseMs, Except.ok ()⟩] := by
  obtain ⟨o, ⟨unlocked, -, -, hr, -⟩ |
    ⟨e, t, -, -, ⟨-, -, hr⟩ | ⟨hwindow, p, rfl, hr⟩⟩⟩ := run_reconfirmOnce hrun
  · cases hr
  · cases hr
  · rcases p with err | _
    · cases hr
    · exact ⟨_, t, hwindow.1, rfl⟩

/-- The moment at which a window closes that was opened `start` after the clock was started. -/
def deadline (clock start : ℕ) : ℕ := clock + start + readyStall

/-- The window closes: every repetition takes a second of it. -/
theorem settles_unlockRead (hk : timed.KeptBy h time) {settled : Option Clock} :
    Settles h fun fuel => (unlockRead fuel settled).prog mt := by
  cases settled with
  | none => exact settles_doUnlock
  | some clock =>
    refine Stateful.settles_bind (Stateful.settles_lift settles_elapsed) fun start t => ?_
    refine Stateful.settles_bind (fun s => ?_) fun r t => Stateful.settles_lift (.result r)
    refine Stateful.settlesFrom_retry
      (R := InvImage (· < ·) fun p : Mt1959 × σ => deadline clock start - time p.2)
      (InvImage.wf _ Nat.lt_wfRel.wf) (fun _ => settles_reconfirmOnce) ?_ t s
    intro mt s τ mt' s' hexec
    obtain ⟨e₁, t, hwindow, rfl⟩ := run_reconfirmOnce_none (run_of_exec hexec)
    have hwait := wait_of_follows (show timed.Follows (time s) ([e₁] ++ ⟨.now, t⟩ ::
      ([] ++ [⟨.pause reconfirmSensePauseMs, Except.ok ()⟩])) (time s') from hk.follows hexec)
    have hpos : 0 < nanos reconfirmSensePauseMs := by decide
    have hopen : t < deadline clock start := by unfold deadline; omega
    change deadline clock start - time s' < deadline clock start - time s
    omega

end Reconfirm

/-! ## Readiness -/

section Readiness

variable {clock : Clock} {answer : ScsiSense} {poll poll' : Poll} {τ : List (Event Scsi)}

theorem settles_startOnce : Settles h fun _ => (startOnce clock answer).prog poll := by
  refine Stateful.settles_bind (x := fun _ => get) (.pure _) fun s t => ?_
  split_ifs
  · exact Stateful.settles_bind (Stateful.settles_lift settles_elapsed) fun now t =>
      Stateful.settles_bind (x := fun _ => set _) (.pure _) fun _ t =>
      Stateful.settles_lift (.seq (.lift (.ask _)) fun _ => .result _)
  · exact Stateful.settles_ret _

theorem settles_progress : Settles h fun _ => (progress clock answer).prog poll := by
  refine Stateful.settles_bind (x := fun _ => get) (.pure _) fun s t =>
    Stateful.settles_bind (Stateful.settles_lift settles_elapsed) fun now t => ?_
  split_ifs
  · exact Stateful.settles_ret _
  · exact Stateful.settles_ret _
  · exact Stateful.settles_bind (x := fun _ => set _) (.pure _) fun _ t => Stateful.settles_ret _

theorem settles_pollOnce : Settles h fun _ => (pollOnce clock).prog poll := by
  refine Stateful.settles_bind (Stateful.settles_lift (.seq (.lift (.ask _)) fun _ => .result _))
    fun sense t => ?_
  rcases sense with _ | sense
  · exact Stateful.settles_ret _
  refine Stateful.settles_bind (x := fun _ => get) (.pure _) fun s t =>
    Stateful.settles_bind (x := fun _ => set _) (.pure _) fun _ t => ?_
  cases (s.note (ScsiSense.fromBuf sense)).outcome (ScsiSense.fromBuf sense) with
  | some outcome => exact Stateful.settles_ret _
  | none =>
    refine Stateful.settles_bind settles_startOnce fun _ t =>
      Stateful.settles_bind settles_progress fun o t => ?_
    cases o with
    | some outcome => exact Stateful.settles_ret _
    | none =>
      exact Stateful.settles_bind (Stateful.settles_lift settles_wait) fun _ t =>
        Stateful.settles_ret _

@[irreducible] def unseen {α : Type} [Fintype α] [DecidableEq α] (seen : List α) : ℕ :=
  (Finset.univ.filter (· ∉ seen)).card

theorem unseen_append_lt {α : Type} [Fintype α] [DecidableEq α] {seen : List α} {a : α}
    (h : a ∉ seen) : unseen (seen ++ [a]) < unseen seen := by
  unfold unseen
  refine Finset.card_lt_card ((Finset.ssubset_iff_of_subset fun c hc => ?_).mpr ⟨a, ?_, ?_⟩)
  · simp only [List.mem_append, not_or, Finset.mem_filter] at hc ⊢
    exact ⟨hc.1, hc.2.1⟩
  · simpa using h
  · simp

def answerCode (answer : ScsiSense) : Fin 256 × Fin 256 × Fin 256 :=
  (answer.senseKey.toFin, answer.asc.toFin, answer.ascq.toFin)

theorem answerCode_injective : Function.Injective answerCode := by
  rintro ⟨k, a, q⟩ ⟨k', a', q'⟩ h
  simp only [answerCode, Prod.mk.injEq, UInt8.toFin_inj] at h
  obtain ⟨rfl, rfl, rfl⟩ := h
  rfl

/-- How many answers the poll has not seen, and whether START STOP UNIT is still to come. -/
def Poll.left (poll : Poll) : ℕ :=
  unseen (poll.seen.map answerCode) + if poll.startSent then 0 else 1

theorem left_see (h : answer ∉ poll.seen) (t : ℕ) :
    Poll.left { poll with seen := poll.seen ++ [answer], lastProgress := t } < poll.left := by
  refine Nat.add_lt_add_right ?_ _
  rw [List.map_append]
  exact unseen_append_lt (mt (List.mem_map_of_injective answerCode_injective).mp h)

theorem run_startOnce {u : Unit}
    (hrun : Run ((startOnce clock answer).prog poll) τ (.ok u, poll')) :
    (τ = [] ∧ poll' = poll) ∨ poll'.left < poll.left := by
  replace hrun := Stateful.run_get_bind_iff.mp hrun
  split_ifs at hrun with hstart
  · rcases Stateful.run_bind_iff.mp hrun with ⟨_, he, -⟩ | ⟨τ₁, t, s, τ₂, rfl, h₁, h₂⟩
    · cases he
    obtain ⟨-, rfl⟩ := Stateful.run_lift_iff.mp h₁
    obtain ⟨-, rfl⟩ := Stateful.run_lift_iff.mp
      (Stateful.run_set_bind_iff (f := fun _ => Stateful.lift startUnit) |>.mp h₂)
    exact .inr (by simp [Poll.left, hstart.2])
  · obtain ⟨rfl, -, rfl⟩ := Stateful.run_pure_iff.mp hrun
    exact .inl ⟨rfl, rfl⟩

/-- Going on needs a new answer or an open window. -/
theorem run_progress_none (hrun : Run ((progress clock answer).prog poll) τ (.ok none, poll')) :
    poll'.left < poll.left ∨
      ∃ t : ℕ, τ = [⟨.now, t⟩] ∧ poll' = poll ∧ t - clock - poll.lastProgress < readyStall := by
  replace hrun := Stateful.run_get_bind_iff.mp hrun
  rcases Stateful.run_bind_iff.mp hrun with ⟨_, he, -⟩ | ⟨τ₁, t, s, τ₂, rfl, h₁, h₂⟩
  · cases he
  obtain ⟨hread, rfl⟩ := Stateful.run_lift_iff.mp h₁
  obtain ⟨t, rfl, ht⟩ := run_elapsed_iff.mp hread
  obtain rfl := Except.ok.inj ht
  split_ifs at h₂ with hseen hstall
  · cases (Stateful.run_pure_iff.mp h₂).2.1
  · obtain ⟨rfl, -, rfl⟩ := Stateful.run_pure_iff.mp h₂
    exact .inr ⟨t, rfl, rfl, not_le.mp hstall⟩
  · obtain ⟨-, -, rfl⟩ := Stateful.run_pure_iff.mp
      (Stateful.run_set_bind_iff (f := fun _ => pure none) |>.mp h₂)
    exact .inl (left_see hseen _)

/-- An iteration that goes on has used something up, or waited inside an open window. -/
theorem run_pollOnce_none (hrun : Run ((pollOnce clock).prog poll) τ (.ok none, poll')) :
    poll'.left < poll.left ∨ poll'.left = poll.left ∧ poll'.lastProgress = poll.lastProgress ∧
      ∃ (t : ℕ) (τ₁ : List (Event Scsi)),
        τ = τ₁ ++ ⟨.now, t⟩ :: ([] ++ [⟨.pause readyPollMs, Except.ok ()⟩]) ∧
          t - clock - poll.lastProgress < readyStall := by
  rcases Stateful.run_bind_iff.mp hrun with ⟨_, he, -⟩ | ⟨τ₁, sense, s, τ₂, rfl, h₁, h₂⟩
  · cases he
  obtain ⟨-, rfl⟩ := Stateful.run_lift_iff.mp h₁
  rcases sense with _ | sense
  · cases (Stateful.run_pure_iff.mp h₂).2.1
  replace h₂ := Stateful.run_get_bind_iff.mp h₂
  replace h₂ := Stateful.run_set_bind_iff (f := fun _ => _) |>.mp h₂
  have hnote : (s.note (ScsiSense.fromBuf sense)).left = s.left := rfl
  rcases hout : (s.note (ScsiSense.fromBuf sense)).outcome (ScsiSense.fromBuf sense) with _ | out
  · rw [hout] at h₂
    rcases Stateful.run_bind_iff.mp h₂ with ⟨_, he, -⟩ | ⟨τ₃, _, s₁, τ₄, rfl, h₃, h₄⟩
    · cases he
    rcases Stateful.run_bind_iff.mp h₄ with ⟨_, he, -⟩ | ⟨τ₅, o, s₂, τ₆, rfl, h₅, h₆⟩
    · cases he
    rcases o with _ | out
    · rcases Stateful.run_bind_iff.mp h₆ with ⟨_, he, -⟩ | ⟨τ₇, _, s₃, τ₈, rfl, h₇, h₈⟩
      · cases he
      obtain ⟨hwait, rfl⟩ := Stateful.run_lift_iff.mp h₇
      obtain ⟨p, rfl, hp⟩ := run_wait_iff.mp hwait
      obtain ⟨rfl, -, rfl⟩ := Stateful.run_pure_iff.mp h₈
      rcases p with err | _
      · cases hp
      rcases run_startOnce h₃ with ⟨rfl, rfl⟩ | hleft
      · rcases run_progress_none h₅ with hleft | ⟨t, rfl, rfl, hwindow⟩
        · exact .inl (hnote ▸ hleft)
        · exact .inr ⟨hnote, rfl, t, τ₁, by simp, hwindow⟩
      · rcases run_progress_none h₅ with hleft' | ⟨t, -, rfl, -⟩
        · exact .inl (hleft'.trans (hnote ▸ hleft))
        · exact .inl (hnote ▸ hleft)
    · cases (Stateful.run_pure_iff.mp h₆).2.1
  · rw [hout] at h₂
    cases (Stateful.run_pure_iff.mp h₂).2.1

/-- The poll ends: there are finitely many answers, and between two new ones a window closes. -/
theorem settles_awaitMediaReady (hk : timed.KeptBy h time) :
    Settles h fun fuel => (awaitMediaReady fuel clock).run := by
  refine .seq settles_elapsed fun start => .map fun t => ?_
  refine Stateful.settlesFrom_retry
    (R := InvImage (Prod.Lex (· < ·) (· < ·)) fun p : Poll × σ =>
      (p.1.left, deadline clock p.1.lastProgress - time p.2))
    (InvImage.wf _ (WellFounded.prod_lex Nat.lt_wfRel.wf Nat.lt_wfRel.wf))
    (fun _ => settles_pollOnce) ?_ _ t
  intro poll s τ poll' s' hexec
  rcases run_pollOnce_none (run_of_exec hexec) with hleft | ⟨hleft, hlast, t, τ₁, rfl, hwindow⟩
  · exact Prod.Lex.left _ _ hleft
  · have hwait := wait_of_follows (hk.follows hexec)
    have hpos : 0 < nanos readyPollMs := by decide
    have hopen : t < deadline clock poll.lastProgress := by unfold deadline; omega
    refine Prod.lex_def.mpr (.inr ⟨hleft, ?_⟩)
    dsimp only
    rw [hlast]
    omega

end Readiness

/-! ## The initialization -/

section Init

variable {fuel : ℕ} {settled : Option Clock}

theorem settles_unlockAttempt (hk : timed.KeptBy h time) {lost : ℕ → Error → Driver Unit}
    (hlost : ∀ e mt, Settles h fun fuel => (lost fuel e).prog mt) (mt : Mt1959) :
    Settles h fun fuel => (unlockAttempt fuel settled (lost fuel)).prog mt := by
  refine Stateful.settles_bind (Stateful.settles_attempt (settles_unlockRead hk)) fun r t => ?_
  rcases r with e | response
  · dsimp only
    split_ifs
    · exact Stateful.settles_throw _
    · exact Stateful.settles_throw _
    · exact hlost e t
  · cases settled with
    | none => exact Stateful.settles_ret _
    | some clock =>
      exact Stateful.settles_bind (Stateful.settles_lift (settles_awaitMediaReady hk)) fun _ _ =>
        Stateful.settles_ret _

theorem settles_reload {next : ℕ → Option Clock → Error → Driver Unit} {lastErr : Error}
    (hnext : ∀ settled e mt, Settles h fun fuel => (next fuel settled e).prog mt) (mt : Mt1959) :
    Settles h fun fuel => (reload (next fuel) lastErr).prog mt := by
  have hsettle (t : Mt1959) : Settles h fun fuel => Stateful.prog (do
      let clock ← Stateful.lift settleAfterUpload
      next fuel (some clock) lastErr) t :=
    Stateful.settles_bind (Stateful.settles_lift settles_settleAfterUpload) fun clock t =>
      hnext _ _ t
  refine Stateful.settles_bind (Stateful.settles_attempt settles_loadFirmware) fun r t => ?_
  rcases r with e | _
  · dsimp only
    split_ifs
    · exact Stateful.settles_throw _
    · exact hsettle t
    · exact hnext _ _ t
  · exact hsettle t

theorem settles_initAttempts (hk : timed.KeptBy h time) (n : ℕ) :
    ∀ settled lastErr mt, Settles h fun fuel => (initAttempts fuel n settled lastErr).prog mt := by
  induction n with
  | zero =>
    intro settled lastErr mt
    cases settled with
    | none => exact Stateful.settles_throw _
    | some clock => exact settles_unlockAttempt hk (fun _ _ => Stateful.settles_throw _) mt
  | succ n ih =>
    exact fun settled lastErr mt =>
      settles_unlockAttempt hk (fun _ mt => settles_reload ih mt) mt

theorem settles_runInit (hk : timed.KeptBy h time) (mt : Mt1959) :
    Settles h fun fuel => (runInit fuel).prog mt :=
  settles_initAttempts hk unlockAttempts none .unlockFailed mt

end Init

end FreemkvUnlock.Ld
