import FreemkvUnlock.Ld.Unlocker

/-! # The calls of the firmware unlocker

Which calls each part of the unlocker makes. The parts are told apart by what they send: the
unlock read by its 64 bytes, an upload by its direction, the calibration by its three commands.
-/

namespace FreemkvUnlock.Ld

open Interaction Fallible

/-- A 64-byte READ BUFFER; only the unlock read is one. -/
def IsUnlockRead (e : Event Scsi) : Prop :=
  match e.1 with
  | .execute cdb dir data _ =>
    cdb.headD 0 = scsiReadBuffer ∧ dir = .fromDevice ∧ data.length = unlockResponseSize
  | _ => False

def IsUpload (e : Event Scsi) : Prop :=
  match e.1 with
  | .execute _ dir _ _ => dir = .toDevice
  | _ => False

/-- SET CD SPEED, the last command of the calibration. -/
def IsSetCdSpeed (e : Event Scsi) : Prop :=
  match e.1 with
  | .execute cdb dir _ _ => cdb.headD 0 = scsiSetCdSpeed ∧ cdb.length = 12 ∧ dir = .none
  | _ => False

/-- A read of the calibration: READ CAPACITY, or a four-byte READ BUFFER of the driver's own
buffer. -/
def IsProbe (e : Event Scsi) : Prop :=
  match e.1 with
  | .execute cdb dir data _ => dir = .fromDevice ∧
    (cdb.headD 0 = scsiReadCapacity ∧ data.length = readCapacityResponseSize ∨
      cdb.headD 0 = scsiReadBuffer ∧ cdb.getD 2 0 ≠ verifyBufferId ∧
        data.length = probeResponseSize)
  | _ => False

def IsCalibration (e : Event Scsi) : Prop := IsProbe e ∨ IsSetCdSpeed e

def readsClock : Event Scsi → Bool
  | ⟨.now, _⟩ => true
  | _ => false

/-- Interactions with the transport: all calls but the readings of the host's clock. -/
def transport (τ : List (Event Scsi)) : List (Event Scsi) := τ.filter fun e => !readsClock e

theorem transport_append (τ₁ τ₂ : List (Event Scsi)) :
    transport (τ₁ ++ τ₂) = transport τ₁ ++ transport τ₂ := List.filter_append ..

/-! ## Unlock reads -/

theorem run_issue_iff {cdb data : List UInt8} {dir : DataDirection} {t : ℕ}
    {r : Except Error (ScsiResult × Vector UInt8 data.length)} :
    Run (issue cdb dir data t).run τ r ↔ ∃ o : Outcome data.length,
      τ = [⟨.execute cdb dir data t, o⟩] ∧
      r = (o.result.mapError Error.ofScsiError).map fun r => (r, o.data) :=
  run_ask_result_iff

def unlockReadOp (mt : Mt1959) : Op :=
  .execute mt.unlockCdb .fromDevice (List.replicate unlockResponseSize 0) 30000

theorem isUnlockRead_unlockReadOp {mt : Mt1959} {o : Outcome _} :
    IsUnlockRead ⟨unlockReadOp mt, o⟩ :=
  ⟨rfl, rfl, List.length_replicate⟩

def ReadCall (e : Event Scsi) : Prop :=
  IsUnlockRead e ∨ e.1 = .now ∨ e.1 = .pause reconfirmSensePauseMs

section Reads

variable {mt : Mt1959} {clock : Clock} {fuel start ms : ℕ} {P : Event Scsi → Prop}

theorem issues_doUnlock : Issues IsUnlockRead (doUnlock.prog mt) := by
  refine Stateful.issues_bind Stateful.issues_get fun s t =>
    Stateful.issues_bind (.map ?_) fun _ t => ?_
  · refine .seq (.lift (.ask fun o => ?_)) fun _ => .result _
    exact (isUnlockRead_unlockReadOp : IsUnlockRead ⟨unlockReadOp s, o⟩)
  · exact Stateful.issues_bind (.map (.result _)) fun _ t =>
      Stateful.issues_bind Stateful.issues_set fun _ t => .pure _

theorem run_elapsed_iff {τ : List (Event Scsi)} {r : Except Error ℕ} :
    Run clock.elapsed.run τ r ↔ ∃ t : ℕ, τ = [⟨.now, t⟩] ∧ r = .ok (t - clock) := by
  constructor
  · intro h
    rcases run_fallible_bind_iff.mp h with ⟨e, -, h₁⟩ | ⟨τ₁, t, τ₂, rfl, h₁, h₂⟩
    · obtain ⟨t, -, he⟩ := run_lift_iff.mp h₁
      cases he
    · obtain ⟨rfl, rfl⟩ := run_fallible_pure_iff.mp h₂
      rw [run_ask_iff.mp (run_lift_ok_iff.mp h₁)]
      exact ⟨t, rfl, rfl⟩
  · rintro ⟨t, rfl, rfl⟩
    exact run_fallible_bind_iff.mpr (.inr ⟨[⟨.now, t⟩], t, [], rfl,
      run_lift_ok_iff.mpr (run_ask_iff (I := Scsi) |>.mpr rfl),
      run_fallible_pure_iff.mpr ⟨rfl, rfl⟩⟩)

theorem run_wait_iff {τ : List (Event Scsi)} {r : Except Error Unit} :
    Run (wait ms).run τ r ↔
      ∃ p : Except ScsiError Unit, τ = [⟨.pause ms, p⟩] ∧ r = p.mapError Error.ofScsiError :=
  run_ask_result_iff

theorem run_readyClock {τ : List (Event Scsi)} {r : Except Error Clock}
    (h : Run readyClock.run τ r) : ∃ t : ℕ, τ = [⟨.now, t⟩] ∧ r = .ok t := by
  obtain ⟨t, ht, rfl⟩ := run_lift_iff.mp h
  exact ⟨t, run_ask_iff.mp ht, rfl⟩

theorem issues_elapsed (h : ∀ t, P ⟨.now, t⟩) : Issues P clock.elapsed.run :=
  .seq (.lift (.ask h)) fun _ => .ret _

theorem issues_wait (h : ∀ r, P ⟨.pause ms, r⟩) : Issues P (wait ms).run :=
  .seq (.lift (.ask h)) fun _ => .result _

theorem issues_reconfirmOnce : Issues ReadCall ((reconfirmOnce clock start).prog mt) := by
  refine Stateful.issues_bind (.map (issues_doUnlock.mono fun _ => .inl)) fun r t => ?_
  rcases r with e | response
  · refine Stateful.issues_bind (.map (issues_elapsed fun _ => .inr (.inl rfl))) fun now t => ?_
    split_ifs
    · exact Stateful.issues_bind (.map (issues_wait fun _ => .inr (.inr rfl))) fun _ t => .pure _
    · exact .pure _
  · exact .pure _

theorem issues_unlockRead {settled : Option Clock} :
    Issues ReadCall ((unlockRead fuel settled).prog mt) := by
  cases settled with
  | none => exact issues_doUnlock.mono fun _ => .inl
  | some clock =>
    refine Stateful.issues_bind (.map (issues_elapsed fun _ => .inr (.inl rfl))) fun now t => ?_
    exact Stateful.issues_bind (Stateful.issues_retry (fun _ => issues_reconfirmOnce) fuel t)
      fun r t => .map (.result r)

end Reads

/-! ## Readiness -/

def turOp : Op := .execute [scsiTestUnitReady, 0, 0, 0, 0, 0] .none [] turTimeoutMs
def startUnitOp : Op := .execute startUnitCdb .none [] startUnitTimeoutMs

def PollCall (e : Event Scsi) : Prop :=
  e.1 = turOp ∨ e.1 = startUnitOp ∨ e.1 = .now ∨ e.1 = .pause readyPollMs

section Readiness

variable {clock : Clock} {fuel : ℕ} {answer : ScsiSense} {poll : Poll}

theorem issues_testUnitReady : Issues PollCall testUnitReady.run :=
  .seq (.lift (.ask fun _ => .inl rfl)) fun _ => .result _

theorem issues_pollElapsed : Issues PollCall clock.elapsed.run :=
  issues_elapsed fun _ => .inr (.inr (.inl rfl))

theorem issues_startOnce : Issues PollCall ((startOnce clock answer).prog poll) := by
  refine Stateful.issues_bind Stateful.issues_get fun s t => ?_
  split_ifs
  · refine Stateful.issues_bind (.map issues_pollElapsed) fun now t =>
      Stateful.issues_bind Stateful.issues_set fun _ t => .map ?_
    exact .seq (.lift (.ask fun _ => .inr (.inl rfl))) fun _ => .result _
  · exact .pure _

theorem issues_progress : Issues PollCall ((progress clock answer).prog poll) := by
  refine Stateful.issues_bind Stateful.issues_get fun s t =>
    Stateful.issues_bind (.map issues_pollElapsed) fun now t => ?_
  split_ifs
  · exact .pure _
  · exact .pure _
  · exact Stateful.issues_bind Stateful.issues_set fun _ t => .pure _

theorem issues_pollOnce : Issues PollCall ((pollOnce clock).prog poll) := by
  refine Stateful.issues_bind (.map issues_testUnitReady) fun sense t => ?_
  rcases sense with _ | sense
  · exact .pure _
  refine Stateful.issues_bind Stateful.issues_get fun s t =>
    Stateful.issues_bind Stateful.issues_set fun _ t => ?_
  cases (s.note (ScsiSense.fromBuf sense)).outcome (ScsiSense.fromBuf sense) with
  | some outcome => exact .pure _
  | none =>
    refine Stateful.issues_bind issues_startOnce fun _ t =>
      Stateful.issues_bind issues_progress fun o t => ?_
    cases o with
    | some outcome => exact .pure _
    | none =>
      exact Stateful.issues_bind (.map (issues_wait fun _ => .inr (.inr (.inr rfl)))) fun _ t =>
        .pure _

theorem issues_awaitMediaReady : Issues PollCall (awaitMediaReady fuel clock).run :=
  .seq issues_pollElapsed fun _ => .map (Stateful.issues_retry (fun _ => issues_pollOnce) fuel _)

end Readiness

/-! ## Uploads -/

/-- A follow-up of an upload: a read of the upload's own buffers, or the vendor verify command. -/
def IsAdvisory (e : Event Scsi) : Prop :=
  match e.1 with
  | .execute cdb dir data _ =>
    dir = .fromDevice ∧ (cdb = verifyCdbA ∧ data.length = validateResponseSize ∨
      cdb = readMetaCdb ∧ data.length = 16) ∨ dir = .none ∧ cdb.length = 10
  | _ => False

/-- The calls of an upload. -/
def LoadCall (e : Event Scsi) : Prop :=
  e.1 = .beginCritical ∨ e.1 = .endCritical ∨ IsUpload e ∨ IsAdvisory e ∨ IsUnlockRead e

section Uploads

variable {mt : Mt1959} {cdb data : List UInt8} {dir : DataDirection} {x : Step Unit}
  {opcode mode : UInt8} {P : Event Scsi → Prop}

theorem issues_critical (hbegin : ∀ r, P ⟨.beginCritical, r⟩) (hend : ∀ r, P ⟨.endCritical, r⟩)
    (hx : Issues P x.run) : Issues P (critical x).run := by
  refine .bind (.ask hbegin) fun r => ?_
  rcases r with e | _
  · exact .pure _
  · exact .bind hx fun r => .bind (.ask hend) fun _ => .pure _

theorem issues_upload
    (h : ∀ o, P ⟨.execute (uploadCdb opcode mode data.length) .toDevice data 30000, o⟩) :
    Issues P (upload opcode mode data).run :=
  .seq (.seq (.lift (.ask h)) fun _ => .result _) fun _ => .ret _

theorem issues_traceStep (h : ∀ o, P ⟨.execute cdb dir data 5000, o⟩) :
    Issues P (traceStep cdb dir data).run :=
  .seq (.lift (.ask h)) fun _ => .result _

theorem issues_confirm : Issues IsUnlockRead (confirm.prog mt) :=
  Stateful.issues_bind (.map issues_doUnlock) fun _ _ => .pure _

theorem issues_unlockTwice : Issues IsUnlockRead
    (Stateful.prog (doUnlock >>= fun _ => confirm : Driver Unit) mt) :=
  Stateful.issues_bind issues_doUnlock fun _ _ => issues_confirm

theorem issues_unlockRetries (n : ℕ) : Issues IsUnlockRead ((unlockRetries n).prog mt) := by
  induction n generalizing mt with
  | zero => exact Stateful.issues_bind issues_doUnlock fun _ t => .pure _
  | succ n ih =>
    refine Stateful.issues_bind (.map issues_doUnlock) fun r t => ?_
    rcases r with e | response
    · dsimp only
      split_ifs
      · exact .pure _
      · exact ih
    · exact issues_confirm

theorem issues_loadFirmware : Issues LoadCall (loadFirmware.prog mt) := by
  have hadv {e : Event Scsi} (h : IsAdvisory e) : LoadCall e := .inr (.inr (.inr (.inl h)))
  have hread (e : Event Scsi) (h : IsUnlockRead e) : LoadCall e := .inr (.inr (.inr (.inr h)))
  refine Stateful.issues_bind Stateful.issues_get fun s _ => ?_
  split_ifs
  · refine Stateful.issues_bind Stateful.issues_get fun s t =>
      Stateful.issues_bind (.map (.ensure _ _)) fun _ t =>
      Stateful.issues_bind (.map (issues_critical (fun _ => .inl rfl) (fun _ => .inr (.inl rfl))
        ?_)) fun _ t => issues_unlockTwice.mono hread
    exact .seq (issues_upload fun _ => .inr (.inr (.inl rfl))) fun _ =>
      issues_traceStep fun _ => hadv (.inl ⟨rfl, .inl ⟨rfl, List.length_replicate⟩⟩)
  · refine Stateful.issues_bind Stateful.issues_get fun s t =>
      Stateful.issues_bind (.map (.ensure _ _)) fun _ t =>
      Stateful.issues_bind (.map (issues_critical (fun _ => .inl rfl) (fun _ => .inr (.inl rfl))
        ?_)) fun _ t => (issues_unlockRetries 5).mono hread
    refine .seq (issues_upload fun _ => .inr (.inr (.inl rfl))) fun _ =>
      .seq (issues_traceStep fun _ => ?_) fun _ =>
      .seq (issues_traceStep fun _ => .inr (.inr (.inl rfl))) fun _ =>
      issues_traceStep fun _ => hadv (.inr ⟨rfl, Vector.length_toList⟩)
    exact hadv (.inl ⟨rfl, .inr ⟨rfl, List.length_replicate⟩⟩)

end Uploads

/-! ## Calibration -/

section Calibration

variable {mt : Mt1959}

theorem isProbe_readBuffer (h : mt.bufferId ≠ verifyBufferId) {subCmd : UInt8}
    {address : UInt16} {len t : ℕ} {o : Outcome _} :
    IsProbe ⟨.execute (mt.readBufferSub subCmd address len) .fromDevice
      (List.replicate probeResponseSize 0) t, o⟩ :=
  ⟨rfl, .inr ⟨rfl, h, List.length_replicate⟩⟩

theorem issues_readBufferProbe (h : mt.bufferId ≠ verifyBufferId) {subCmd : UInt8}
    {address : UInt16} :
    Issues IsProbe (mt.readBufferProbe subCmd address probeResponseSize).run := by
  refine .seq (.seq (.lift (.ask fun _ => ?_)) fun _ => .result _) fun _ =>
    .seq (.ensure _ _) fun _ => .ret _
  exact isProbe_readBuffer h

theorem issues_validateLoop (h : mt.bufferId ≠ verifyBufferId) (n : ℕ) :
    Issues IsProbe (validateLoop mt n).run := by
  induction n with
  | zero => exact .throw _
  | succ n ih =>
    refine .seq (.seq (.lift (.ask fun _ => ?_)) fun _ => .result _) fun ⟨r, _⟩ => ?_
    · exact isProbe_readBuffer h
    · dsimp only
      split_ifs
      · exact .ret _
      · exact ih

theorem issues_fineProbes (h : mt.bufferId ≠ verifyBufferId) (addresses : List UInt16) :
    Issues IsProbe (mt.fineProbes addresses).run := by
  induction addresses with
  | nil => exact .ret _
  | cons address addresses ih =>
    refine .bind (issues_readBufferProbe h) fun r => ?_
    rcases r with e | n
    · exact .pure _
    · exact ih

theorem issues_probes (h : mt.bufferId ≠ verifyBufferId) : Issues IsProbe (probes mt).run := by
  refine .seq (.seq (.lift (.ask fun _ => ?_)) fun _ => .result _) fun ⟨r, cap⟩ => ?_
  · exact ⟨rfl, .inl ⟨rfl, List.length_replicate⟩⟩
  refine .seq (.bind (issues_readBufferProbe h) fun r => ?_) fun _ =>
    .seq (issues_validateLoop h 5) fun _ =>
    .seq (.forM fun address _ => .bind (issues_readBufferProbe h) fun r => ?_) fun _ =>
    issues_fineProbes h _
  · rcases r with e | n <;> exact .pure _
  · rcases r with e | n <;> exact .pure _

theorem run_maxSpeed {τ : List (Event Scsi)} {u : Unit} (h : Run Mt1959.maxSpeed τ u) :
    ∃ e, τ = [e] ∧ IsSetCdSpeed e := by
  obtain ⟨τ₁, r, τ₂, rfl, h₁, h₂⟩ := run_bind_iff.mp h
  obtain ⟨rfl, -⟩ := run_pure_iff.mp h₂
  rcases run_fallible_bind_iff.mp h₁ with ⟨e, -, h₁⟩ | ⟨τ₃, a, τ₄, rfl, h₃, h₄⟩
  · obtain ⟨o, rfl, -⟩ := run_issue_iff.mp h₁
    exact ⟨_, rfl, rfl, rfl, rfl⟩
  · obtain ⟨o, rfl, -⟩ := run_issue_iff.mp h₃
    obtain ⟨rfl, -⟩ := run_fallible_pure_iff.mp h₄
    exact ⟨_, rfl, rfl, rfl, rfl⟩

/-- A calibration fails in its reads, or ends with setting the speed. -/
theorem run_calibrate {τ : List (Event Scsi)} {r : Except Error Unit}
    (h : Run (calibrate mt).run τ r) :
    (∃ e, r = .error e ∧ Run (probes mt).run τ (.error e)) ∨
      ∃ τ' speed, τ = τ' ++ [speed] ∧ r = .ok () ∧ Run (probes mt).run τ' (.ok ()) ∧
        IsSetCdSpeed speed := by
  rcases run_fallible_bind_iff.mp h with h | ⟨τ₁, _, τ₂, rfl, h₁, h₂⟩
  · exact .inl h
  · obtain ⟨u, hspeed, rfl⟩ := run_lift_iff.mp h₂
    obtain ⟨e, rfl, he⟩ := run_maxSpeed hspeed
    exact .inr ⟨τ₁, e, rfl, rfl, h₁, he⟩

theorem issues_calibrate (h : mt.bufferId ≠ verifyBufferId) :
    Issues IsCalibration (calibrate mt).run := by
  intro τ r hrun e he
  rcases run_calibrate hrun with ⟨_, -, h₁⟩ | ⟨τ', speed, rfl, -, h₁, hspeed⟩
  · exact .inl (issues_probes h h₁ e he)
  · rcases List.mem_append.mp he with he | he
    · exact .inl (issues_probes h h₁ e he)
    · exact .inr (List.mem_singleton.mp he ▸ hspeed)

end Calibration

/-! ## The whole run -/

def InitCall (e : Event Scsi) : Prop :=
  ReadCall e ∨ PollCall e ∨ LoadCall e ∨ e.1 = .pause uploadSettleMs

section Init

variable {mt : Mt1959} {fuel : ℕ} {settled : Option Clock}

theorem issues_settleAfterUpload : Issues InitCall settleAfterUpload.run :=
  .seq (.lift (.ask fun _ => .inl (.inr (.inl rfl)))) fun _ =>
    .seq (issues_wait fun _ => .inr (.inr (.inr rfl))) fun _ => .ret _

theorem issues_unlockConfirmed : Issues InitCall ((unlockConfirmed fuel settled).prog mt) := by
  cases settled with
  | none => exact .pure _
  | some clock =>
    exact Stateful.issues_bind (.map (issues_awaitMediaReady.mono fun _ h => .inr (.inl h)))
      fun _ _ => .pure _

theorem issues_unlockAttempt {lost : Error → Driver Unit}
    (hlost : ∀ e mt, Issues InitCall ((lost e).prog mt)) :
    Issues InitCall ((unlockAttempt fuel settled lost).prog mt) := by
  refine Stateful.issues_bind (.map (issues_unlockRead.mono fun _ => .inl)) fun r t => ?_
  rcases r with e | response
  · dsimp only
    split_ifs
    · exact .pure _
    · exact .pure _
    · exact hlost e t
  · exact issues_unlockConfirmed

theorem issues_reload {next : Option Clock → Error → Driver Unit} {lastErr : Error}
    (hnext : ∀ settled e mt, Issues InitCall ((next settled e).prog mt)) :
    Issues InitCall ((reload next lastErr).prog mt) := by
  have hload : Issues InitCall (loadFirmware.prog mt) :=
    issues_loadFirmware.mono fun _ h => .inr (.inr (.inl h))
  have hsettle (t : Mt1959) : Issues InitCall (Stateful.prog (do
      let clock ← Stateful.lift settleAfterUpload
      next (some clock) lastErr) t) :=
    Stateful.issues_bind (.map issues_settleAfterUpload) fun clock t => hnext _ _ t
  refine Stateful.issues_bind (.map hload) fun r t => ?_
  rcases r with e | _
  · dsimp only
    split_ifs
    · exact .pure _
    · exact hsettle t
    · exact hnext _ _ t
  · exact hsettle t

theorem issues_initAttempts (n : ℕ) (settled : Option Clock) (lastErr : Error) :
    ∀ mt, Issues InitCall ((initAttempts fuel n settled lastErr).prog mt) := by
  induction n generalizing settled lastErr with
  | zero =>
    cases settled with
    | none => exact fun _ => .pure _
    | some clock => exact fun _ => issues_unlockAttempt fun _ _ => .pure _
  | succ n ih => exact fun _ => issues_unlockAttempt fun _ _ => issues_reload ih

theorem issues_init : Issues InitCall ((init fuel).prog mt) := by
  refine Stateful.issues_bind Stateful.issues_get fun s t => ?_
  split_ifs
  · exact .pure _
  · exact issues_initAttempts _ _ _ t

end Init

def IsVidRead (e : Event Scsi) : Prop :=
  match e.1 with
  | .execute cdb dir data _ => cdb.length = 10 ∧ dir = .fromDevice ∧ data.length = oemVidLen
  | _ => False

theorem run_readOemVid {profile : DriveProfile} {τ : List (Event Scsi)}
    {r : Except Error (Option (Vector UInt8 16))} (h : Run (readOemVid profile).run τ r) :
    τ = [] ∨ ∃ e, τ = [e] ∧ IsVidRead e := by
  unfold readOemVid at h
  rcases hcdb : profile.readVidCdb with _ | cdb <;> rw [hcdb] at h
  · exact .inl (run_fallible_pure_iff.mp h).1
  · rcases run_fallible_bind_iff.mp h with ⟨e, -, h₁⟩ | ⟨τ₁, a, τ₂, rfl, h₁, h₂⟩
    · obtain ⟨o, rfl, -⟩ := run_issue_iff.mp h₁
      exact .inr ⟨_, rfl, Vector.length_toList, rfl, List.length_replicate⟩
    · obtain ⟨o, rfl, -⟩ := run_issue_iff.mp h₁
      obtain ⟨rfl, -⟩ := run_fallible_pure_iff.mp h₂
      exact .inr ⟨_, rfl, Vector.length_toList, rfl, List.length_replicate⟩

/-- A run ends during initialization, or goes on to calibrate an unlocked driver and then to read
the Volume ID. -/
theorem run_firmwareUnlockWith_parts {mt mt' : Mt1959} {fuel : ℕ} {τ : List (Event Scsi)}
    {r : Except UnlockError Unlocked}
    (h : Run ((firmwareUnlockWith fuel).prog mt) τ (r, mt')) :
    ((∃ e, r = .error e) ∧ ∃ r₁ t, Run ((init fuel).prog mt) τ (r₁, t)) ∨
      ∃ τ₁ t τ₂ r₂ t₂ τ₃, τ = τ₁ ++ τ₂ ++ τ₃ ∧ Run ((init fuel).prog mt) τ₁ (.ok (), t) ∧
        t.unlocked = true ∧ Run ((calibrated fuel).prog t) τ₂ (r₂, t₂) ∧
        ((∃ e, r₂ = .error e ∧ r = .error e ∧ τ₃ = []) ∨
          r₂ = .ok () ∧ ∃ rv, Run (readOemVid t.profile).run τ₃ rv ∧
            r = (rv.mapError Error.toUnlockError).map fun vid => ⟨vid, none⟩) := by
  rcases Stateful.run_bind_iff.mp h with ⟨e, rfl, h₁⟩ | ⟨τ₁, _, t, τ₂, rfl, h₁, h₂⟩
  · obtain ⟨r, -, h₁⟩ := Stateful.run_mapErr_iff.mp h₁
    exact .inl ⟨⟨e, rfl⟩, _, _, h₁⟩
  obtain ⟨r₁, hr₁, h₁⟩ := Stateful.run_mapErr_iff.mp h₁
  rcases r₁ with e | _
  · cases hr₁
  replace h₂ := Stateful.run_get_bind_iff.mp h₂
  split_ifs at h₂ with hunlocked
  · rcases Stateful.run_bind_iff.mp h₂ with ⟨e, rfl, h₃⟩ | ⟨τ₃, _, t₂, τ₄, rfl, h₃, h₄⟩
    · exact .inr ⟨τ₁, t, τ₂, _, mt', [], by simp, h₁, hunlocked, h₃, .inl ⟨e, rfl, rfl, rfl⟩⟩
    · refine .inr ⟨τ₁, t, τ₃, _, t₂, τ₄, by simp, h₁, hunlocked, h₃, .inr ⟨rfl, ?_⟩⟩
      rcases Stateful.run_bind_iff.mp h₄ with ⟨e, rfl, h₅⟩ | ⟨τ₅, vid, t₃, τ₆, rfl, h₅, h₆⟩
      · obtain ⟨rv, hrv, h₅⟩ := Stateful.run_mapErr_iff.mp h₅
        exact ⟨rv, (Stateful.run_lift_iff.mp h₅).1, hrv ▸ rfl⟩
      · obtain ⟨rfl, rfl, -⟩ := Stateful.run_pure_iff.mp h₆
        obtain ⟨rv, hrv, h₅⟩ := Stateful.run_mapErr_iff.mp h₅
        rw [List.append_nil]
        exact ⟨rv, (Stateful.run_lift_iff.mp h₅).1, hrv ▸ rfl⟩
  · rcases Stateful.run_bind_iff.mp h₂ with ⟨e, rfl, h₃⟩ | ⟨τ₃, _, t₁, τ₄, rfl, h₃, h₄⟩
    · obtain ⟨rfl, -, -⟩ := Stateful.run_throw_iff.mp h₃
      exact .inl ⟨⟨e, rfl⟩, _, _, by simpa using h₁⟩
    · cases (Stateful.run_throw_iff.mp h₃).2.1

theorem run_firmwareUnlockWith {mt mt' : Mt1959} {fuel : ℕ} {τ : List (Event Scsi)}
    {r : Except UnlockError Unlocked}
    (h : Run ((firmwareUnlockWith fuel).prog mt) τ (r, mt')) :
    ((∃ e, r = .error e) ∧ ∃ r₁ t, Run ((init fuel).prog mt) τ (r₁, t)) ∨
      ∃ τ₁ t τ₂ r₂ t₂ τ₃, τ = τ₁ ++ τ₂ ++ τ₃ ∧ Run ((init fuel).prog mt) τ₁ (.ok (), t) ∧
        t.unlocked = true ∧ Run ((calibrated fuel).prog t) τ₂ (r₂, t₂) ∧
        ((∃ e, r₂ = .error e ∧ r = .error e ∧ τ₃ = []) ∨
          r₂ = .ok () ∧ (τ₃ = [] ∨ ∃ e, τ₃ = [e] ∧ IsVidRead e)) := by
  rcases run_firmwareUnlockWith_parts h with h | ⟨τ₁, t, τ₂, r₂, t₂, τ₃, rfl, h₁, hu, h₂, hend⟩
  · exact .inl h
  · exact .inr ⟨τ₁, t, τ₂, r₂, t₂, τ₃, rfl, h₁, hu, h₂,
      hend.imp_right fun ⟨hr, _, hvid, _⟩ => ⟨hr, run_readOemVid hvid⟩⟩

/-! ## Telling the calls apart -/

section Apart

variable {e : Event Scsi}

theorem not_isUnlockRead_of_pollCall (h : PollCall e) : ¬ IsUnlockRead e := by
  obtain ⟨o, r⟩ := e
  rcases h with h | h | h | h <;>
    (cases (h : o = _); first | exact id | exact fun hr => nomatch hr.2.1)

theorem not_isUnlockRead_of_isCalibration (h : IsCalibration e) : ¬ IsUnlockRead e := by
  obtain ⟨o, r⟩ := e
  cases o with
  | execute cdb dir data t =>
    rintro ⟨hop, -, hlen⟩
    rcases h with ⟨-, ⟨-, h⟩ | ⟨-, -, h⟩⟩ | ⟨h, -⟩
    · exact absurd (hlen.symm.trans h) (by decide)
    · exact absurd (hlen.symm.trans h) (by decide)
    · exact absurd (hop.symm.trans h) (by decide)
  | _ => exact id

theorem not_isUnlockRead_of_isVidRead (h : IsVidRead e) : ¬ IsUnlockRead e := by
  obtain ⟨o, r⟩ := e
  cases o with
  | execute cdb dir data t => exact fun hr => absurd (hr.2.2.symm.trans h.2.2) (by decide)
  | _ => exact id

theorem not_isCalibration_of_isUnlockRead (h : IsUnlockRead e) : ¬ IsCalibration e :=
  fun hc => not_isUnlockRead_of_isCalibration hc h

theorem not_isCalibration_of_isVidRead (h : IsVidRead e) : ¬ IsCalibration e := by
  obtain ⟨o, r⟩ := e
  cases o with
  | execute cdb dir data t =>
    rintro (⟨-, ⟨-, hc⟩ | ⟨-, -, hc⟩⟩ | ⟨-, -, hc⟩)
    · exact absurd (h.2.2.symm.trans hc) (by decide)
    · exact absurd (h.2.2.symm.trans hc) (by decide)
    · exact absurd (h.2.1.symm.trans hc) (by decide)
  | _ => exact h.elim

theorem not_isCalibration_of_call {o : Op} (h : e.1 = o)
    (ho : ∀ cdb dir data t, o ≠ .execute cdb dir data t) : ¬ IsCalibration e := by
  obtain ⟨o', r⟩ := e
  obtain rfl : o' = o := h
  cases o' with
  | execute cdb dir data t => exact absurd rfl (ho cdb dir data t)
  | _ => exact fun hc => hc.elim id id

theorem not_isCalibration_of_pollCall (h : PollCall e) : ¬ IsCalibration e := by
  rcases h with h | h | h | h
  · obtain ⟨o, r⟩ := e
    cases (h : o = _)
    exact fun hc => hc.elim (fun hc => nomatch hc.1) fun hc => absurd hc.2.1 (by decide)
  · obtain ⟨o, r⟩ := e
    cases (h : o = _)
    exact fun hc => hc.elim (fun hc => nomatch hc.1) fun hc => absurd hc.2.1 (by decide)
  · exact not_isCalibration_of_call h nofun
  · exact not_isCalibration_of_call h nofun

theorem not_isCalibration_of_isUpload (h : IsUpload e) : ¬ IsCalibration e := by
  obtain ⟨o, r⟩ := e
  cases o with
  | execute cdb dir data t =>
    obtain rfl : dir = .toDevice := h
    exact fun hc => hc.elim (fun hc => nomatch hc.1) fun hc => nomatch hc.2.2
  | _ => exact h.elim

theorem not_isCalibration_of_isAdvisory (h : IsAdvisory e) : ¬ IsCalibration e := by
  obtain ⟨o, r⟩ := e
  cases o with
  | execute cdb dir data t =>
    rcases h with ⟨rfl, ⟨rfl, hlen⟩ | ⟨rfl, hlen⟩⟩ | ⟨rfl, hlen⟩
    · rintro (⟨-, ⟨hop, -⟩ | ⟨-, hid, -⟩⟩ | ⟨-, -, hc⟩)
      · exact absurd hop (by decide)
      · exact hid rfl
      · cases hc
    · rintro (⟨-, ⟨-, hc⟩ | ⟨-, -, hc⟩⟩ | ⟨-, -, hc⟩)
      · exact absurd (hlen.symm.trans hc) (by decide)
      · exact absurd (hlen.symm.trans hc) (by decide)
      · cases hc
    · rintro (⟨hc, -⟩ | ⟨-, hc, -⟩)
      · cases hc
      · omega
  | _ => exact h.elim

theorem not_isCalibration_of_readCall (h : ReadCall e) : ¬ IsCalibration e := by
  rcases h with h | h | h
  · exact not_isCalibration_of_isUnlockRead h
  · exact not_isCalibration_of_call h nofun
  · exact not_isCalibration_of_call h nofun

theorem not_isCalibration_of_initCall (h : InitCall e) : ¬ IsCalibration e := by
  rcases h with h | h | (h | h | h | h | h) | h
  · exact not_isCalibration_of_readCall h
  · exact not_isCalibration_of_pollCall h
  · exact not_isCalibration_of_call h nofun
  · exact not_isCalibration_of_call h nofun
  · exact not_isCalibration_of_isUpload h
  · exact not_isCalibration_of_isAdvisory h
  · exact not_isCalibration_of_isUnlockRead h
  · exact not_isCalibration_of_call h nofun

end Apart

end FreemkvUnlock.Ld
