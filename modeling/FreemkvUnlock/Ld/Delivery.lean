import FreemkvUnlock.Delivery
import FreemkvUnlock.Ld.Unlocker

/-! # The firmware unlocker on undelivered bytes

The unlock read hands its whole buffer on, so two runs may differ in what it returns; nobody looks
at it. Every other reader takes the bytes that were transferred, or only their number.
-/

namespace FreemkvUnlock.Ld

open Interaction Fallible

/-! ## Commands -/

section Commands

variable {α : Type} {cdb data : List UInt8} {dir : DataDirection} {ms n : ℕ} {mt : Mt1959}
  {address : UInt16}

/-- What a command hands on, up to undelivered bytes. -/
def SameIssue (q q' : ScsiResult × Vector UInt8 n) : Prop :=
  SameDelivery ⟨.ok q.1, q.2⟩ ⟨.ok q'.1, q'.2⟩

theorem fst_of_sameIssue {q q' : ScsiResult × Vector UInt8 n} (h : SameIssue q q') : q.1 = q'.1 :=
  Except.ok.inj h.result

theorem sim_issue : Sim Indistinct (SameFailure SameIssue) (issue cdb dir data ms).run
    (issue cdb dir data ms).run := by
  refine sim_askResult fun o o' h => ?_
  change SameDelivery (o : Outcome data.length) o' at h
  rcases hr : (o : Outcome data.length).result with e | r
  · rw [← h.result, hr]
    exact .error _
  · rw [← h.result, hr]
    exact .ok ⟨rfl, fun r' hr' => h.delivered r' (hr.trans hr')⟩

theorem blind_issue_status {f : ScsiResult → Step α} (hf : ∀ r, Blind (f r)) :
    Blind (issue cdb dir data ms >>= fun q => f q.1) := by
  refine Sim.seq (fun _ => rfl) sim_issue fun q q' h => ?_
  rw [fst_of_sameIssue h]
  exact hf q'.1

theorem blind_readBufferProbe {subCmd : UInt8} {expected : ℕ} :
    Blind (mt.readBufferProbe subCmd address expected) :=
  blind_issue_status (f := fun r => do
    ensure (r.status = 0 ∧ r.bytesTransferred = expected) (Mt1959.readBufferError r)
    return r.bytesTransferred) fun _ => .seq .ensure fun _ => .ret _

theorem blind_validateLoop : ∀ n, Blind (validateLoop mt n)
  | 0 => .throw _
  | n + 1 => by
    refine blind_issue_status (f := fun r => if r.status = 0 then pure () else validateLoop mt n)
      fun r => ?_
    split_ifs
    · exact .ret ()
    · exact blind_validateLoop n

theorem blind_readyClock : Blind readyClock := .lift steady_now

theorem blind_elapsed {clock : Clock} : Blind clock.elapsed :=
  .seq (.lift steady_now) fun _ => .ret _

theorem blind_wait : Blind (wait ms) := .seq (.lift (steady_pause ms)) fun _ => .result _

theorem blind_settleAfterUpload : Blind settleAfterUpload :=
  .seq blind_readyClock fun _ => .seq blind_wait fun _ => .ret _

theorem blind_settle : Blind (settle ms) := .seq blind_readyClock fun _ => blind_wait

theorem blind_status {f : Except ScsiError ScsiResult → Except Error α} :
    Blind (ExceptT.lift (Scsi.execute cdb dir data ms) >>= fun o => result (f o.result) :
      Step α) := by
  refine .askResult fun o o' h => ?_
  change SameDelivery (o : Outcome data.length) o' at h
  exact congrArg f h.result

end Commands

/-! ## The unlock read -/

section UnlockRead

variable {n fuel : ℕ} {mt : Mt1959} {clock : Clock}

/-- The unlock response is checked in its first bytes, which must have been transferred. -/
theorem checkResponse_same {q q' : ScsiResult × Vector UInt8 n} (h : SameIssue q q') :
    mt.checkResponse q.1 q.2.toList = mt.checkResponse q'.1 q'.2.toList := by
  obtain ⟨r, d⟩ := q
  obtain ⟨r', d'⟩ := q'
  obtain rfl : r = r' := fst_of_sameIssue h
  unfold Mt1959.checkResponse
  by_cases hs : r.status = 0
  · simp only [hs, ne_eq, not_true_eq_false, if_false, Vector.length_toList]
    by_cases hlen : min r.bytesTransferred n < minUnlockResponse
    · rw [if_pos hlen, if_pos hlen]
    · have hle : 20 ≤ r.bytesTransferred := by
        simp only [minUnlockResponse, firmwareModeOffset] at hlen
        omega
      have hextract (i k : ℕ) (hk : k ≤ 20) : d.toList.extract i k = d'.toList.extract i k :=
        extract_delivered h rfl hs (hk.trans hle)
      have hget (i : Fin 4) : d.toList.getD i 0 = d'.toList.getD i 0 := by
        have hi := congrArg (fun bs : List UInt8 => bs.getD i 0) (hextract 0 20 le_rfl)
        simpa [List.extract_eq_take_drop, List.getD_eq_getElem?_getD, List.getElem?_take,
          show i.val < 20 by omega] using hi
      rw [if_neg hlen, if_neg hlen, hextract 0 4 (by decide), hextract firmwareActiveOffset
        (firmwareActiveOffset + 4) (by decide), hextract firmwareModeOffset
        (firmwareModeOffset + 4) (by decide)]
      simp only [hget]
  · rw [if_pos hs, if_pos hs]

/-- Two unlock reads leave the same state; the bytes they return may differ. -/
theorem sim_doUnlock (s : Mt1959) : Sim Indistinct (SameEnd fun _ _ => True)
    (Stateful.prog doUnlock s) (Stateful.prog doUnlock s) := by
  refine Stateful.sim_seq (fun e t => ⟨.error e, rfl⟩) (.pure _) fun mt t => ?_
  refine Stateful.sim_bind (fun e t => ⟨.error e, rfl⟩) (Stateful.sim_lift sim_issue)
    fun q q' t h => ?_
  dsimp only
  rw [checkResponse_same h]
  refine Stateful.sim_seq (fun e t => ⟨.error e, rfl⟩) (Stateful.steady_lift (.result _))
    fun unlocked t => ?_
  exact Stateful.sim_seq (fun e t => ⟨.error e, rfl⟩) (.pure _) fun _ t => .pure ⟨.ok trivial, rfl⟩

theorem steady_doUnlock {α : Type} {x : Driver α} (hx : ∀ t, Steady Indistinct (x.prog t))
    (s : Mt1959) : Steady Indistinct (Stateful.prog (doUnlock >>= fun _ => x) s) :=
  Stateful.sim_bind (fun _ _ => rfl) (sim_doUnlock s) fun _ _ t _ => hx t

theorem sim_reconfirmOnce {start : ℕ} (s : Mt1959) :
    Sim Indistinct (SameEnd (Option.Rel (SameFailure fun _ _ => True)))
      ((reconfirmOnce clock start).prog s) ((reconfirmOnce clock start).prog s) := by
  refine Stateful.sim_bind (fun e t => ⟨.error e, rfl⟩) (Stateful.sim_attempt (sim_doUnlock s))
    fun r r' t h => ?_
  cases h with
  | ok h => exact .pure ⟨.ok (.some (.ok trivial)), rfl⟩
  | error e =>
    refine Stateful.sim_seq (fun e t => ⟨.error e, rfl⟩) (Stateful.steady_lift blind_elapsed)
      fun now t => ?_
    split_ifs
    · exact Stateful.sim_seq (fun e t => ⟨.error e, rfl⟩) (Stateful.steady_lift blind_wait)
        fun _ t => .pure ⟨.ok .none, rfl⟩
    · exact .pure ⟨.ok (.some (.error e)), rfl⟩

theorem sim_unlockRead (settled : Option Clock) (s : Mt1959) :
    Sim Indistinct (SameEnd fun _ _ => True) ((unlockRead fuel settled).prog s)
      ((unlockRead fuel settled).prog s) := by
  cases settled with
  | none => exact sim_doUnlock s
  | some clock =>
    refine Stateful.sim_seq (fun e t => ⟨.error e, rfl⟩) (Stateful.steady_lift blind_elapsed)
      fun start t => ?_
    refine Stateful.sim_bind (fun e t => ⟨.error e, rfl⟩)
      (Stateful.sim_retry sim_reconfirmOnce fuel t) fun r r' t h => ?_
    exact Stateful.sim_lift (.pure h)

end UnlockRead

/-! ## Waiting for the medium -/

section Readiness

variable {fuel : ℕ} {clock : Clock} {answer : ScsiSense}

theorem blind_testUnitReady : Blind testUnitReady := by
  refine .askResult fun o o' h => ?_
  change SameDelivery (o : Outcome 0) o' at h
  unfold turReply
  rw [h.result]

theorem blind_startUnit : Blind startUnit := by
  refine .askResult fun o o' h => ?_
  change SameDelivery (o : Outcome 0) o' at h
  unfold startUnitReply
  rw [h.result]

theorem steady_startOnce (s : Poll) : Steady Indistinct ((startOnce clock answer).prog s) := by
  refine Stateful.steady_get_bind ?_
  split_ifs
  · refine Stateful.steady_bind (Stateful.steady_lift blind_elapsed) fun _ t => ?_
    exact Stateful.steady_set_bind (Stateful.steady_lift blind_startUnit)
  · exact .pure _

theorem steady_progress (s : Poll) : Steady Indistinct ((progress clock answer).prog s) := by
  refine Stateful.steady_get_bind ?_
  refine Stateful.steady_bind (Stateful.steady_lift blind_elapsed) fun now t => ?_
  split_ifs
  · exact .pure _
  · exact .pure _
  · exact Stateful.steady_set_bind (.pure _)

theorem steady_pollOnce (s : Poll) : Steady Indistinct ((pollOnce clock).prog s) := by
  refine Stateful.steady_bind (Stateful.steady_lift blind_testUnitReady) fun reply t => ?_
  cases reply with
  | none => exact .pure _
  | some sense =>
    refine Stateful.steady_get_bind ?_
    refine Stateful.steady_set_bind ?_
    cases (t.note (ScsiSense.fromBuf sense)).outcome (ScsiSense.fromBuf sense) with
    | some outcome => exact .pure _
    | none =>
      refine Stateful.steady_bind (steady_startOnce _) fun _ t => ?_
      refine Stateful.steady_bind (steady_progress t) fun stalled t => ?_
      cases stalled with
      | some outcome => exact .pure _
      | none => exact Stateful.steady_bind (Stateful.steady_lift blind_wait) fun _ t => .pure _

theorem blind_awaitMediaReady : Blind (awaitMediaReady fuel clock) :=
  .seq blind_elapsed fun _ => Stateful.steady_eval (Stateful.steady_retry steady_pollOnce fuel _)

end Readiness

/-! ## Upload -/

section Upload

variable {cdb data firmware : List UInt8} {dir : DataDirection} {opcode mode : UInt8}

theorem blind_critical {x : Step Unit} (hx : Blind x) : Blind (critical x) := by
  refine Steady.bind steady_beginCritical fun opened => ?_
  rcases opened with e | _
  · exact .pure _
  · exact Steady.bind hx fun _ => .bind steady_endCritical fun _ => .pure _

theorem blind_traceStep : Blind (traceStep cdb dir data) := blind_status

theorem blind_upload : Blind (upload opcode mode firmware) := blind_issue_status fun _ => .ret ()

theorem steady_confirm (s : Mt1959) : Steady Indistinct (confirm.prog s) :=
  Stateful.sim_bind (fun _ _ => rfl) (Stateful.sim_attempt (sim_doUnlock s)) fun _ _ _ _ =>
    .pure rfl

theorem steady_unlockRetries : ∀ (n : ℕ) (s : Mt1959),
    Steady Indistinct ((unlockRetries n).prog s)
  | 0, s => steady_doUnlock (fun _ => .pure _) s
  | n + 1, s => by
    refine Stateful.sim_bind (fun _ _ => rfl) (Stateful.sim_attempt (sim_doUnlock s))
      fun r r' t h => ?_
    cases h with
    | ok h => exact steady_confirm t
    | error e =>
      dsimp only
      split_ifs
      · exact .pure rfl
      · exact steady_unlockRetries n t

theorem steady_loadFirmware (s : Mt1959) : Steady Indistinct (loadFirmware.prog s) := by
  refine Stateful.steady_get_bind ?_
  split_ifs
  · refine Stateful.steady_get_bind ?_
    refine Stateful.steady_bind (Stateful.steady_lift .ensure) fun _ t => ?_
    refine Stateful.steady_bind (Stateful.steady_lift (blind_critical ?_)) fun _ t => ?_
    · exact .seq blind_upload fun _ => blind_traceStep
    · exact steady_doUnlock steady_confirm t
  · refine Stateful.steady_get_bind ?_
    refine Stateful.steady_bind (Stateful.steady_lift .ensure) fun _ t => ?_
    refine Stateful.steady_bind (Stateful.steady_lift (blind_critical ?_)) fun _ t => ?_
    · exact .seq blind_upload fun _ => .seq blind_traceStep fun _ => .seq blind_traceStep fun _ =>
        blind_traceStep
    · exact steady_unlockRetries 5 t

end Upload

/-! ## Attempts -/

section Attempts

variable {fuel : ℕ} {settled : Option Clock}

theorem steady_unlockConfirmed (s : Mt1959) :
    Steady Indistinct ((unlockConfirmed fuel settled).prog s) := by
  cases settled with
  | none => exact .pure _
  | some clock =>
    exact Stateful.steady_bind (Stateful.steady_lift blind_awaitMediaReady) fun _ t => .pure _

theorem steady_unlockAttempt {lost : Error → Driver Unit}
    (hlost : ∀ e s, Steady Indistinct ((lost e).prog s)) (s : Mt1959) :
    Steady Indistinct ((unlockAttempt fuel settled lost).prog s) := by
  refine Stateful.sim_bind (fun _ _ => rfl) (Stateful.sim_attempt (sim_unlockRead settled s))
    fun r r' t h => ?_
  cases h with
  | ok h => exact steady_unlockConfirmed t
  | error e =>
    dsimp only
    split_ifs
    · exact .pure rfl
    · exact .pure rfl
    · exact hlost e t

theorem steady_reload {next : Option Clock → Error → Driver Unit}
    (hnext : ∀ settled e s, Steady Indistinct ((next settled e).prog s)) (lastErr : Error)
    (s : Mt1959) : Steady Indistinct ((reload next lastErr).prog s) := by
  refine Stateful.steady_bind (Stateful.steady_attempt (steady_loadFirmware s)) fun r t => ?_
  rcases r with e | _
  · dsimp only
    split_ifs
    · exact .pure _
    · exact Stateful.steady_bind (Stateful.steady_lift blind_settleAfterUpload) fun clock t =>
        hnext _ _ t
    · exact hnext _ _ t
  · exact Stateful.steady_bind (Stateful.steady_lift blind_settleAfterUpload) fun clock t =>
      hnext _ _ t

theorem steady_initAttempts (n : ℕ) : ∀ settled lastErr s,
    Steady Indistinct ((initAttempts fuel n settled lastErr).prog s) := by
  induction n with
  | zero =>
    intro settled lastErr s
    cases settled with
    | none => exact .pure _
    | some clock => exact steady_unlockAttempt (fun _ _ => .pure _) s
  | succ n ih =>
    exact fun settled lastErr => steady_unlockAttempt fun _ => steady_reload ih lastErr

theorem steady_init (s : Mt1959) : Steady Indistinct ((init fuel).prog s) := by
  refine Stateful.steady_get_bind ?_
  split_ifs
  · exact .pure _
  · exact steady_initAttempts _ _ _ s

end Attempts

/-! ## Calibration -/

section Calibration

variable {n fuel : ℕ} {mt : Mt1959} {address : UInt16}

theorem discSectors_same {q q' : ScsiResult × Vector UInt8 n} (h : SameIssue q q') :
    discSectors q.1 q.2 = discSectors q'.1 q'.2 := by
  obtain ⟨r, d⟩ := q
  obtain ⟨r', d'⟩ := q'
  obtain rfl : r = r' := fst_of_sameIssue h
  unfold discSectors
  by_cases hr : r.status = 0 ∧ 4 ≤ r.bytesTransferred
  · rw [if_pos hr, if_pos hr, take_delivered h rfl hr.1 hr.2]
  · rw [if_neg hr, if_neg hr]

theorem blind_probeInit : Blind (mt.probeInit address) := by
  refine Steady.bind blind_readBufferProbe fun r => ?_
  rcases r with e | _ <;> exact .pure _

theorem blind_coarseProbes (addresses : List UInt16) : Blind (mt.coarseProbes addresses) := by
  refine .forM (fun address => ?_) addresses
  refine Steady.bind blind_readBufferProbe fun r => ?_
  rcases r with e | _ <;> exact .pure _

theorem blind_fineProbes (addresses : List UInt16) : Blind (mt.fineProbes addresses) := by
  induction addresses with
  | nil => exact .ret ()
  | cons address addresses ih =>
    refine Steady.bind blind_readBufferProbe fun r => ?_
    rcases r with e | _
    · exact .pure _
    · exact ih

theorem blind_calibrate : Blind (calibrate mt) := by
  refine .seq ?_ fun _ => .lift ?_
  · refine Sim.seq (fun _ => rfl) sim_issue fun q q' h => ?_
    dsimp only
    rw [discSectors_same h]
    exact Steady.seq blind_probeInit fun _ => .seq (blind_validateLoop 5) fun _ =>
      .seq (blind_coarseProbes _) fun _ => blind_fineProbes _
  · exact Steady.bind (blind_issue_status fun _ => .ret ()) fun _ => .pure _

theorem steady_runProbe (s : Mt1959) : Steady Indistinct (runProbe.prog s) := by
  have hcalibrate (t : Mt1959) : Steady Indistinct (Stateful.prog (do
      let mt ← get
      Stateful.lift (calibrate mt)
      set { mt with probed := true } : Driver Unit) t) := by
    refine Stateful.steady_get_bind ?_
    exact Stateful.steady_bind (Stateful.steady_lift blind_calibrate) fun _ t => .pure _
  refine Stateful.steady_get_bind ?_
  split_ifs
  · exact hcalibrate s
  · exact steady_doUnlock hcalibrate s

theorem steady_probeDisc (s : Mt1959) : Steady Indistinct (probeDisc.prog s) := by
  refine Stateful.steady_get_bind ?_
  split_ifs
  · exact .pure _
  · exact steady_runProbe s

theorem steady_reconfirmUnlock (s : Mt1959) :
    Steady Indistinct ((reconfirmUnlock fuel).prog s) := by
  refine Stateful.steady_get_bind ?_
  refine Stateful.steady_set_bind ?_
  refine Stateful.steady_bind (Stateful.steady_lift blind_readyClock) fun clock t => ?_
  refine Stateful.sim_bind (fun _ _ => rfl) (sim_unlockRead (some clock) t) fun _ _ t _ => ?_
  exact Stateful.steady_get_bind (.pure _)

theorem steady_calibrated (s : Mt1959) : Steady Indistinct ((calibrated fuel).prog s) := by
  refine Stateful.steady_bind (Stateful.steady_attempt (steady_probeDisc s)) fun r t => ?_
  rcases r with e | _
  · dsimp only
    split_ifs
    · refine Stateful.steady_bind (Stateful.steady_mapErr (Stateful.steady_lift blind_settle))
        fun _ t => Stateful.steady_bind (Stateful.steady_mapErr (steady_reconfirmUnlock t))
        fun unlocked t => ?_
      split_ifs <;> exact .pure _
    · exact .pure _
  · exact .pure _

end Calibration

/-! ## The unlocker -/

theorem oemVidReply_same {q q' : ScsiResult × Vector UInt8 oemVidLen} (h : SameIssue q q') :
    oemVidReply q.1 q.2 = oemVidReply q'.1 q'.2 := by
  obtain ⟨r, d⟩ := q
  obtain ⟨r', d'⟩ := q'
  obtain rfl : r = r' := fst_of_sameIssue h
  unfold oemVidReply
  by_cases hr : r.status = 0 ∧ oemVidLen ≤ r.bytesTransferred
  · obtain rfl : d = d' := data_delivered h rfl hr.1 hr.2
    rfl
  · rw [if_neg fun hc => hr ⟨hc.1, hc.2.1⟩, if_neg fun hc => hr ⟨hc.1, hc.2.1⟩]

theorem blind_readOemVid (profile : DriveProfile) : Blind (readOemVid profile) := by
  unfold readOemVid
  cases profile.readVidCdb with
  | none => exact .ret _
  | some cdb =>
    refine Sim.seq (fun _ => rfl) sim_issue fun q q' h => ?_
    refine Sim.pure (congrArg Except.ok (oemVidReply_same ?_))
    exact h

theorem blind_unlock {catalog : Option Profiles} {fuel : ℕ} {ctx : UnlockCtx} :
    Blind (unlock catalog fuel ctx) := by
  refine Steady.map ?_
  unfold firmwareUnlock
  cases driverFor catalog ctx.driveId with
  | none => exact .throw _
  | some mt =>
    refine Stateful.steady_eval ?_
    refine Stateful.steady_bind (Stateful.steady_mapErr (steady_init mt)) fun _ t => ?_
    refine Stateful.steady_get_bind ?_
    have hrest (t' : Mt1959) : Steady Indistinct (Stateful.prog (do
        calibrated fuel
        let vid ← Stateful.mapErr Error.toUnlockError (Stateful.lift (readOemVid t.profile))
        return ⟨vid, none⟩ : Unlocking Unlocked) t') := by
      refine Stateful.steady_bind (steady_calibrated t') fun _ t' => ?_
      refine Stateful.steady_bind (Stateful.steady_mapErr
        (Stateful.steady_lift (blind_readOemVid t.profile))) fun vid t' => .pure _
    split_ifs
    · exact hrest t
    · exact Stateful.steady_bind (.pure _) fun _ t => hrest t

end FreemkvUnlock.Ld
