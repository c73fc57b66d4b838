import FreemkvUnlock.DeadBus
import FreemkvUnlock.Interaction.Blame
import FreemkvUnlock.Ld.Unlocker

/-! # Causes of a transport failure

The driver ends with a transport failure only after a call that failed with a dead bus. Only this
direction is followed here, so the steps whose outcome is dropped need no rule.
-/

namespace FreemkvUnlock.Ld

open Interaction Fallible

abbrev IsTransport (e : Error) : Prop := e.isTransportFailure = true

/-- Steps whose transport failures have a cause. -/
abbrev Caused {α : Type} (x : Step α) : Prop := Blames Faulty (Fails IsTransport) x.run

abbrev Causes {α : Type} (x : Driver α) : Prop :=
  ∀ mt, Blames Faulty (fun q => Fails IsTransport q.1) (x.prog mt)

section Calls

variable {cdb data : List UInt8} {dir : DataDirection} {t ms : ℕ} {clock : Clock}

theorem isDeadBus_of_isTransport {e : ScsiError} (h : IsTransport (.ofScsiError e)) :
    isDeadBus e = true := by
  obtain ⟨status, sense⟩ := e
  cases sense with
  | none =>
    have hs : status = scsiStatusTransportFailure := beq_iff_eq.mp h
    simpa [isDeadBus] using hs
  | some => cases h

theorem foundDead_of_mapError {α : Type} {r : Except ScsiError α}
    (h : Fails IsTransport (r.mapError Error.ofScsiError)) : FoundDead r := by
  rcases r with e | a
  · exact ⟨e, rfl, isDeadBus_of_isTransport h⟩
  · exact h.elim

theorem caused_issue : Caused (issue cdb dir data t) := by
  refine .askResult fun o h => ?_
  refine foundDead_of_mapError (r := o.result) ?_
  rcases hr : o.result.mapError Error.ofScsiError with e | a
  · rwa [hr] at h
  · rw [hr] at h
    exact h.elim

theorem caused_elapsed : Caused clock.elapsed := .seq (.lift _) fun _ => .ret _

theorem caused_wait : Caused (wait ms) := .askResult fun _ => foundDead_of_mapError

theorem caused_settle : Caused (settle ms) := .seq (.lift _) fun _ => caused_wait

theorem caused_settleAfterUpload : Caused settleAfterUpload :=
  .seq (.lift _) fun _ => .seq caused_wait fun _ => .ret _

theorem causes_lift {α : Type} {x : Step α} (hx : Caused x) :
    Causes (Stateful.lift x : Driver α) := fun _ => Stateful.blames_lift hx

theorem causes_ret {α : Type} (a : α) : Causes (pure a : Driver α) := fun _ => .pure id

theorem causes_throw {α : Type} {e : Error} (h : ¬ IsTransport e) :
    Causes (throw e : Driver α) := fun _ => .pure h

theorem causes_bind {α β : Type} {x : Driver α} {f : α → Driver β} (hx : Causes x)
    (hf : ∀ a, Causes (f a)) : Causes (x >>= f) :=
  fun mt => Stateful.blames_bind (fun _ => id) (hx mt) fun a t => hf a t

theorem causes_attempt_bind {α β : Type} {x : Driver α} {f : Except Error α → Driver β}
    (hx : Causes x) (hf : ∀ r, ¬ Fails IsTransport r → Causes (f r)) :
    Causes (Stateful.attempt x >>= f) :=
  fun mt => Stateful.blames_attempt_bind (hx mt) fun r t hr => hf r hr t

end Calls

/-! ## Reads -/

section Reads

variable {mt : Mt1959} {clock : Clock} {start fuel : ℕ} {settled : Option Clock}

theorem checkResponse_not_transport {r : ScsiResult} {response : List UInt8} :
    ¬ Fails IsTransport (mt.checkResponse r response) := by
  unfold Mt1959.checkResponse
  split_ifs <;> nofun

theorem causes_doUnlock : Causes doUnlock :=
  causes_bind (x := get) (fun _ => .pure id) fun _ => causes_bind (causes_lift caused_issue)
    fun _ => causes_bind (causes_lift (.result checkResponse_not_transport)) fun _ =>
    causes_bind (x := set _) (fun _ => .pure id) fun _ => causes_ret _

def ReadTransport {α : Type} : Except Error (Except Error α) → Prop
  | .ok r => Fails IsTransport r
  | .error e => IsTransport e

theorem blames_reconfirmOnce (mt : Mt1959) :
    Blames Faulty (fun q => Stateful.Ended ReadTransport q.1)
      ((reconfirmOnce clock start).prog mt) := by
  refine Stateful.blames_attempt_bind (causes_doUnlock mt) fun r t hr => ?_
  rcases r with e | response
  · refine Stateful.blames_bind (fun _ => id) (causes_lift caused_elapsed t) fun now t => ?_
    split_ifs
    · exact Stateful.blames_bind (fun _ => id) (causes_lift caused_wait t) fun _ t => .pure id
    · exact .pure hr
  · exact .pure id

theorem causes_unlockRead : Causes (unlockRead fuel settled) := by
  cases settled with
  | none => exact causes_doUnlock
  | some clock =>
    refine causes_bind (causes_lift caused_elapsed) fun start mt => ?_
    rw [Stateful.prog_bind]
    refine (Stateful.blames_retry blames_reconfirmOnce fuel mt).bind fun q hq => ?_
    rcases q with ⟨e | r, t⟩
    · exact .pure hq
    · exact Stateful.blames_lift (.result hq) (s := t)

end Reads

/-! ## Readiness -/

section Readiness

variable {clock : Clock} {answer : ScsiSense} {fuel : ℕ} {poll : Poll}

abbrev PollCauses {α : Type} (x : Polling α) : Prop :=
  ∀ poll, Blames Faulty (fun q => Fails IsTransport q.1) (x.prog poll)

theorem pollCauses_lift {α : Type} {x : Step α} (hx : Caused x) :
    PollCauses (Stateful.lift x : Polling α) := fun _ => Stateful.blames_lift hx

theorem pollCauses_ret {α : Type} (a : α) : PollCauses (pure a : Polling α) := fun _ => .pure id

theorem pollCauses_bind {α β : Type} {x : Polling α} {f : α → Polling β} (hx : PollCauses x)
    (hf : ∀ a, PollCauses (f a)) : PollCauses (x >>= f) :=
  fun poll => Stateful.blames_bind (fun _ => id) (hx poll) fun a t => hf a t

theorem caused_testUnitReady : Caused testUnitReady := by
  refine .askResult fun o h => ?_
  change FoundDead o.result
  unfold turReply at h
  rcases hr : o.result with ⟨status, _ | sense⟩ | r
  · rw [hr] at h
    exact ⟨_, rfl, isDeadBus_of_isTransport h⟩
  · rw [hr] at h
    exact h.elim
  · rw [hr] at h
    dsimp only at h
    split_ifs at h <;> exact h.elim

theorem caused_startUnit : Caused startUnit := by
  refine .askResult fun o h => ?_
  change FoundDead o.result
  unfold startUnitReply at h
  rcases hr : o.result with e | r
  · rw [hr] at h
    dsimp only at h
    split_ifs at h
    · exact ⟨_, rfl, isDeadBus_of_isTransport h⟩
    · exact h.elim
  · rw [hr] at h
    exact h.elim

theorem pollCauses_startOnce : PollCauses (startOnce clock answer) := by
  refine pollCauses_bind (x := get) (fun _ => .pure id) fun poll => ?_
  split_ifs
  · exact pollCauses_bind (pollCauses_lift caused_elapsed) fun now =>
      pollCauses_bind (x := set _) (fun _ => .pure id) fun _ => pollCauses_lift caused_startUnit
  · exact pollCauses_ret _

theorem pollCauses_progress : PollCauses (progress clock answer) := by
  refine pollCauses_bind (x := get) (fun _ => .pure id) fun poll =>
    pollCauses_bind (pollCauses_lift caused_elapsed) fun now => ?_
  split_ifs
  · exact pollCauses_ret _
  · exact pollCauses_ret _
  · exact pollCauses_bind (x := set _) (fun _ => .pure id) fun _ => pollCauses_ret _

theorem pollCauses_pollOnce : PollCauses (pollOnce clock) := by
  refine pollCauses_bind (pollCauses_lift caused_testUnitReady) fun sense => ?_
  rcases sense with _ | sense
  · exact pollCauses_ret _
  refine pollCauses_bind (x := get) (fun _ => .pure id) fun poll =>
    pollCauses_bind (x := set _) (fun _ => .pure id) fun _ => ?_
  cases (poll.note (ScsiSense.fromBuf sense)).outcome (ScsiSense.fromBuf sense) with
  | some outcome => exact pollCauses_ret _
  | none =>
    refine pollCauses_bind pollCauses_startOnce fun _ => pollCauses_bind pollCauses_progress
      fun o => ?_
    cases o with
    | some outcome => exact pollCauses_ret _
    | none => exact pollCauses_bind (pollCauses_lift caused_wait) fun _ => pollCauses_ret _

theorem caused_awaitMediaReady : Caused (awaitMediaReady fuel clock) := by
  refine .seq caused_elapsed fun start => ?_
  refine (Stateful.blames_retry (R := Fails IsTransport) (fun poll => ?_) fuel _).map fun _ => id
  intro τ q h hq
  refine pollCauses_pollOnce poll h ?_
  rcases q with ⟨e | _ | outcome, t⟩
  · exact hq
  · exact hq.elim
  · exact hq.elim

end Readiness

/-! ## Upload -/

section Uploads

variable {cdb data : List UInt8} {dir : DataDirection} {opcode mode : UInt8} {x : Step Unit}

theorem caused_upload : Caused (upload opcode mode data) := .seq caused_issue fun _ => .ret _

theorem caused_traceStep : Caused (traceStep cdb dir data) := by
  refine .askResult fun o h => ?_
  change FoundDead o.result
  unfold advisory at h
  rcases hr : o.result with e | r
  · rw [hr] at h
    dsimp only at h
    split_ifs at h with htransport
    · exact ⟨e, rfl, isDeadBus_of_isTransport htransport⟩
    · exact h.elim
  · rw [hr] at h
    exact h.elim

theorem caused_critical (hx : Caused x) : Caused (critical x) := by
  have hbegin : Blames Faulty FoundDead Scsi.beginCritical :=
    Blames.ask (I := Scsi) (o := .beginCritical) fun _ => id
  refine hbegin.bind fun r hr => ?_
  rcases r with e | _
  · exact .pure fun h => hr ⟨e, rfl, isDeadBus_of_isTransport h⟩
  · refine Blames.bind hx fun r hr => .bind (R := fun _ => False) (fun _ _ _ => False.elim)
      fun _ _ => .pure hr

theorem causes_confirm : Causes confirm :=
  causes_attempt_bind causes_doUnlock fun _ _ => causes_ret _

theorem causes_unlockRetries (n : ℕ) : Causes (unlockRetries n) := by
  induction n with
  | zero => exact causes_bind causes_doUnlock fun _ => causes_ret _
  | succ n ih =>
    refine causes_attempt_bind causes_doUnlock fun r hr => ?_
    rcases r with e | response
    · dsimp only
      split_ifs
      · exact causes_throw hr
      · exact ih
    · exact causes_confirm

theorem causes_loadFirmware : Causes loadFirmware := by
  have hensure {c : Prop} [Decidable c] : Causes (Stateful.lift (ensure c .unlockFailed)) :=
    causes_lift (.ensure nofun)
  refine causes_bind (x := get) (fun _ => .pure id) fun mt => ?_
  split_ifs
  · exact causes_bind (x := get) (fun _ => .pure id) fun mt => causes_bind hensure fun _ =>
      causes_bind (causes_lift (caused_critical
        (.seq caused_upload fun _ => caused_traceStep))) fun _ =>
      causes_bind causes_doUnlock fun _ => causes_confirm
  · exact causes_bind (x := get) (fun _ => .pure id) fun mt => causes_bind hensure fun _ =>
      causes_bind (causes_lift (caused_critical
        (.seq caused_upload fun _ => .seq caused_traceStep fun _ => .seq caused_traceStep
          fun _ => caused_traceStep))) fun _ => causes_unlockRetries 5

end Uploads

/-! ## The run -/

section Run

variable {fuel : ℕ} {settled : Option Clock}

theorem causes_unlockConfirmed : Causes (unlockConfirmed fuel settled) := by
  cases settled with
  | none => exact causes_ret _
  | some clock => exact causes_bind (causes_lift caused_awaitMediaReady) fun _ => causes_ret _

theorem causes_unlockAttempt {lost : Error → Driver Unit}
    (hlost : ∀ e, ¬ IsTransport e → Causes (lost e)) :
    Causes (unlockAttempt fuel settled lost) := by
  refine causes_attempt_bind causes_unlockRead fun r hr => ?_
  rcases r with e | response
  · dsimp only
    split_ifs
    · exact causes_throw nofun
    · exact causes_throw hr
    · exact hlost e hr
  · exact causes_unlockConfirmed

theorem causes_reload {next : Option Clock → Error → Driver Unit} {lastErr : Error}
    (hlast : ¬ IsTransport lastErr)
    (hnext : ∀ settled e, ¬ IsTransport e → Causes (next settled e)) :
    Causes (reload next lastErr) := by
  refine causes_attempt_bind causes_loadFirmware fun r hr => ?_
  rcases r with e | _
  · dsimp only
    split_ifs
    · exact causes_throw hr
    · exact causes_bind (causes_lift caused_settleAfterUpload) fun _ => hnext _ _ hlast
    · exact hnext _ _ hr
  · exact causes_bind (causes_lift caused_settleAfterUpload) fun _ => hnext _ _ hlast

theorem causes_initAttempts (n : ℕ) : ∀ settled e, ¬ IsTransport e →
    Causes (initAttempts fuel n settled e) := by
  induction n with
  | zero =>
    intro settled e he
    cases settled with
    | none => exact causes_throw he
    | some clock => exact causes_unlockAttempt fun _ he => causes_throw he
  | succ n ih =>
    exact fun settled e he => causes_unlockAttempt fun _ _ => causes_reload he ih

theorem causes_init : Causes (init fuel) := by
  refine causes_bind (x := get) (fun _ => .pure id) fun mt => ?_
  split_ifs
  · exact causes_ret _
  · exact causes_initAttempts _ _ _ nofun

theorem causes_reconfirmUnlock : Causes (reconfirmUnlock fuel) :=
  causes_bind (x := get) (fun _ => .pure id) fun _ =>
    causes_bind (x := set _) (fun _ => .pure id) fun _ => causes_bind (causes_lift (.lift _))
    fun _ => causes_bind causes_unlockRead fun _ =>
    causes_bind (x := get) (fun _ => .pure id) fun _ => causes_ret _

theorem caused_readOemVid {profile : DriveProfile} : Caused (readOemVid profile) := by
  unfold readOemVid
  cases profile.readVidCdb with
  | none => exact .ret _
  | some cdb => exact .seq caused_issue fun _ => .ret _

theorem isTransport_of_toUnlockError {e : Error} (h : e.toUnlockError = .transport) :
    IsTransport e := by
  unfold Error.toUnlockError at h
  split_ifs at h with ht
  exact ht

abbrev UnlockCauses {α : Type} (x : Unlocking α) : Prop :=
  ∀ mt, Blames Faulty (fun q => Fails (· = .transport) q.1) (x.prog mt)

theorem unlockCauses_bind {α β : Type} {x : Unlocking α} {f : α → Unlocking β}
    (hx : UnlockCauses x) (hf : ∀ a, UnlockCauses (f a)) : UnlockCauses (x >>= f) :=
  fun mt => Stateful.blames_bind (fun _ => id) (hx mt) fun a t => hf a t

theorem unlockCauses_mapErr {α : Type} {x : Driver α} (hx : Causes x) :
    UnlockCauses (Stateful.mapErr Error.toUnlockError x) :=
  fun mt => Stateful.blames_mapErr (hx mt) fun _ => isTransport_of_toUnlockError

theorem unlockCauses_reconfirmAfterFault : UnlockCauses (reconfirmAfterFault fuel) := by
  refine unlockCauses_bind (unlockCauses_mapErr (causes_lift caused_settle)) fun _ =>
    unlockCauses_bind (unlockCauses_mapErr causes_reconfirmUnlock) fun unlocked => ?_
  split_ifs
  · exact fun _ => .pure id
  · exact fun _ => .pure nofun

theorem unlockCauses_calibrated : UnlockCauses (calibrated fuel) := by
  -- whatever the calibration ends with, the unlocker's own errors are those of the re-confirm
  have hx (mt : Mt1959) : Blames Faulty (fun q => Fails (fun _ : Error => False) q.1)
      (probeDisc.prog mt) := fun τ q _ hq => by rcases q with ⟨e | u, t⟩ <;> exact hq.elim
  refine fun mt => Stateful.blames_attempt_bind (hx mt) fun r t _ => ?_
  rcases r with e | _
  · dsimp only
    split_ifs
    · exact unlockCauses_reconfirmAfterFault t
    · exact .pure id
  · exact .pure id

theorem unlockCauses_firmwareUnlockWith : UnlockCauses (firmwareUnlockWith fuel) := by
  refine unlockCauses_bind (unlockCauses_mapErr causes_init) fun _ =>
    unlockCauses_bind (x := get) (fun _ => .pure id) fun mt => ?_
  split_ifs
  · exact unlockCauses_bind unlockCauses_calibrated fun _ =>
      unlockCauses_bind (unlockCauses_mapErr (causes_lift caused_readOemVid)) fun _ =>
      fun _ => .pure id
  · exact unlockCauses_bind (fun _ => .pure nofun) fun _ =>
      unlockCauses_bind unlockCauses_calibrated fun _ =>
      unlockCauses_bind (unlockCauses_mapErr (causes_lift caused_readOemVid)) fun _ =>
      fun _ => .pure id

/-- A dead bus is reported only after one was met. -/
theorem unlock_transport {catalog : Option Profiles} {ctx : UnlockCtx} :
    Blames Faulty (Fails (· = .transport)) (unlock catalog fuel ctx).run := by
  refine Blames.map (R := Fails (· = .transport)) ?_ fun r hr => ?_
  · unfold firmwareUnlock
    cases driverFor catalog ctx.driveId with
    | none => exact .throw nofun
    | some mt => exact (unlockCauses_firmwareUnlockWith mt).map fun _ => id
  · rcases r with e | u
    · cases e <;> first | exact rfl | exact hr.elim
    · exact hr.elim

end Run

end FreemkvUnlock.Ld
