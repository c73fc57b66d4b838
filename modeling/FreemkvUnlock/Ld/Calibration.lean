import FreemkvUnlock.Ld.Confirmation
import FreemkvUnlock.Ld.Faults

/-! # Faults of the calibration

A fault that a read of the calibration meets is followed by silence and by reads that have to
show the unlock again. The last command of the calibration, SET CD SPEED, is the exception: its
outcome is dropped, and a fault there passes unnoticed.
-/

namespace FreemkvUnlock.Ld

open Interaction Fallible

/-- What has to follow a fault of the calibration: the settle pause, and unless it is refused only
unlock reads and the pauses between them before the Volume ID read. The unlock is kept only when
those reads confirm it, and a bus that is still dead is reported. -/
def Reconfirmed (catalog : Option Profiles) (id : DriveId) (post : List (Event Scsi))
    (r : Except UnlockError (Option Unlocked)) : Prop :=
  ∃ (p : Except ScsiError Unit) (rest : List (Event Scsi)),
    transport post = ⟨.pause faultSettleMs, p⟩ :: rest ∧
    ((∃ err, p = .error err) → rest = [] ∧ ∀ u, r ≠ .ok (some u)) ∧
    (p = .ok () → ∃ reads vid, rest = reads ++ vid ∧
      (∀ e ∈ reads, IsUnlockRead e ∨ e.1 = .pause reconfirmSensePauseMs) ∧
      (vid = [] ∨ ∃ e, vid = [e] ∧ IsVidRead e) ∧
      (∀ u, r = .ok (some u) → ConfirmedFor catalog id reads) ∧
      ((∃ e ∈ reads, DeadBus e) → r = .error .transport))

def ReconfirmsFaults (catalog : Option Profiles) (id : DriveId) (τ : List (Event Scsi))
    (r : Except UnlockError (Option Unlocked)) : Prop :=
  ∀ pre e post, τ = pre ++ e :: post → IsCalibration e → DeadBus e →
    Reconfirmed catalog id post r

section Reconfirm

variable {mt mt' : Mt1959} {τ : List (Event Scsi)} {fuel : ℕ}

theorem run_settle {ms : ℕ} {r : Except Error Unit} (h : Run (settle ms).run τ r) :
    ∃ p : Except ScsiError Unit, transport τ = [⟨.pause ms, p⟩] ∧
      r = p.mapError Error.ofScsiError := by
  rcases run_fallible_bind_iff.mp h with ⟨e, -, h₁⟩ | ⟨τ₁, clock, τ₂, rfl, h₁, h₂⟩
  · obtain ⟨_, -, he⟩ := run_readyClock h₁
    cases he
  · obtain ⟨t, rfl, -⟩ := run_readyClock h₁
    obtain ⟨p, rfl, rfl⟩ := run_wait_iff.mp h₂
    exact ⟨p, rfl, rfl⟩

theorem readCall_of_mem_transport {e : Event Scsi} (hread : ∀ e ∈ τ, ReadCall e)
    (h : e ∈ transport τ) : IsUnlockRead e ∨ e.1 = .pause reconfirmSensePauseMs := by
  obtain ⟨hmem, hnow⟩ := List.mem_filter.mp h
  rcases hread e hmem with h | h | h
  · exact .inl h
  · obtain ⟨o, r⟩ := e
    cases (h : o = _)
    cases hnow
  · exact .inr h

theorem Confirmed.transport {profile : DriveProfile} (h : Confirmed profile τ) :
    Confirmed profile (transport τ) := by
  refine Since.filter h fun e he => ?_
  obtain ⟨o, r⟩ := e
  cases o with
  | execute => rfl
  | _ => exact he.1.elim

theorem issues_reconfirmUnlock : Issues ReadCall ((reconfirmUnlock fuel).prog mt) := by
  refine Stateful.issues_bind Stateful.issues_get fun s t =>
    Stateful.issues_bind Stateful.issues_set fun _ t =>
    Stateful.issues_bind (.map (.lift (.ask fun _ => .inr (.inl rfl)))) fun clock t =>
    Stateful.issues_bind issues_unlockRead fun _ t =>
    Stateful.issues_bind Stateful.issues_get fun s t => .pure _

theorem issues_reconfirmAfterFault {P : Event Scsi → Prop}
    (hsettle : ∀ r, P ⟨.pause faultSettleMs, r⟩) (hread : ∀ e, ReadCall e → P e) :
    Issues P ((reconfirmAfterFault fuel).prog mt) := by
  have hsilence : Issues P (settle faultSettleMs).run :=
    .seq (.lift (.ask fun _ => hread _ (.inr (.inl rfl)))) fun _ => issues_wait hsettle
  refine Stateful.issues_bind (.map (.map hsilence)) fun _ t =>
    Stateful.issues_bind (.map (issues_reconfirmUnlock.mono hread)) fun b t => ?_
  split_ifs <;> exact .pure _

theorem not_isCalibration_of_reconfirm :
    Issues (fun e => ¬ IsCalibration e) ((reconfirmAfterFault fuel).prog mt) :=
  issues_reconfirmAfterFault (fun _ => not_isCalibration_of_call rfl nofun) fun _ =>
    not_isCalibration_of_readCall

theorem faultStops_reconfirmUnlock : FaultStops (reconfirmUnlock fuel) := by
  intro mt
  refine Stateful.haltsOn_bind (.pure id) fun s t =>
    Stateful.haltsOn_bind (.pure id) fun _ t =>
    Stateful.haltsOn_bind (faultStops_lift faultStop_readyClock t) fun clock t =>
    Stateful.haltsOn_bind (faultStops_unlockRead t) fun _ t =>
    Stateful.haltsOn_bind (.pure id) fun s t => .pure id

theorem run_reconfirmAfterFault {r : Except UnlockError Unit}
    (h : Run ((reconfirmAfterFault fuel).prog mt) τ (r, mt')) :
    ∃ (p : Except ScsiError Unit) (rest : List (Event Scsi)),
      transport τ = ⟨.pause faultSettleMs, p⟩ :: rest ∧
      ((∃ err, p = .error err) → rest = [] ∧ ∃ e, r = .error e) ∧
      (p = .ok () → (∀ e ∈ rest, IsUnlockRead e ∨ e.1 = .pause reconfirmSensePauseMs) ∧
        (r = .ok () → Confirmed mt.profile rest) ∧
        ((∃ e ∈ rest, DeadBus e) → r = .error .transport)) := by
  rcases Stateful.run_bind_iff.mp h with ⟨e, rfl, h₁⟩ | ⟨τ₁, _, t, τ₂, rfl, h₁, h₂⟩
  · obtain ⟨r', hr', h₁⟩ := Stateful.run_mapErr_iff.mp h₁
    obtain ⟨p, hp, rfl⟩ := run_settle (Stateful.run_lift_iff.mp h₁).1
    refine ⟨p, [], hp, fun _ => ⟨rfl, e, rfl⟩, ?_⟩
    rintro rfl
    cases hr'
  · obtain ⟨r', hr', h₁⟩ := Stateful.run_mapErr_iff.mp h₁
    obtain ⟨hsettle, rfl⟩ := Stateful.run_lift_iff.mp h₁
    obtain ⟨p, hp, rfl⟩ := run_settle hsettle
    refine ⟨p, transport τ₂, by rw [transport_append, hp]; rfl, ?_, fun _ => ?_⟩
    · rintro ⟨err, rfl⟩
      cases hr'
    · rcases Stateful.run_bind_iff.mp h₂ with ⟨e, rfl, h₃⟩ | ⟨τ₃, unlocked, t', τ₄, rfl, h₃, h₄⟩
      · obtain ⟨r', hr', h₃⟩ := Stateful.run_mapErr_iff.mp h₃
        refine ⟨fun e he => readCall_of_mem_transport (issues_reconfirmUnlock h₃) he, nofun, ?_⟩
        rintro ⟨ev, hev, hdead⟩
        have hfault := (faultStops_reconfirmUnlock _).result_iff h₃ |>.mpr
          ⟨ev, List.mem_of_mem_filter hev, faulty_of_deadBus hdead⟩
        rcases r' with e' | b
        · obtain rfl : e' = busFault := hfault
          exact congrArg Except.error (Except.error.inj hr')
        · exact hfault.elim
      · obtain ⟨r', hr', h₃⟩ := Stateful.run_mapErr_iff.mp h₃
        rcases r' with e' | b
        · cases hr'
        obtain rfl := Except.ok.inj hr'
        obtain ⟨-, rfl, hu⟩ := run_reconfirmUnlock_ok h₃
        have hτ₄ : τ₄ = [] ∧ (r = .ok () → t'.unlocked = true) := by
          split_ifs at h₄ with hunlocked
          · exact ⟨(Stateful.run_pure_iff.mp h₄).1, fun _ => hunlocked⟩
          · obtain ⟨rfl, rfl, -⟩ := Stateful.run_throw_iff.mp h₄
            exact ⟨rfl, nofun⟩
        obtain ⟨rfl, hr⟩ := hτ₄
        rw [List.append_nil]
        refine ⟨fun e he => readCall_of_mem_transport (issues_reconfirmUnlock h₃) he,
          fun h => (hu (hr h)).transport, ?_⟩
        rintro ⟨ev, hev, hdead⟩
        exact ((faultStops_reconfirmUnlock _).result_iff h₃ |>.mpr
          ⟨ev, List.mem_of_mem_filter hev, faulty_of_deadBus hdead⟩).elim

end Reconfirm

/-! ## The run -/

section Run

variable {mt mt' : Mt1959} {τ : List (Event Scsi)} {fuel : ℕ} {catalog : Option Profiles}
  {id : DriveId}

theorem not_isSetCdSpeed_of_isProbe {e : Event Scsi} (h : IsProbe e) : ¬ IsSetCdSpeed e := by
  obtain ⟨o, r⟩ := e
  cases o with
  | execute cdb dir data t => exact fun hs => nomatch h.1.symm.trans hs.2.2
  | _ => exact h.elim

/-- The reads of a calibration: without a fault, or with one as their last event. -/
theorem run_probes (hid : mt.bufferId ≠ verifyBufferId) {r : Except Error Unit}
    (h : Run (probes mt).run τ r) :
    (r = .error busFault ∧ ∃ pre e, τ = pre ++ [e] ∧ (∀ e' ∈ pre, ¬ Faulty e') ∧ Faulty e) ∨
      r ≠ .error busFault ∧ ∀ e ∈ τ, ¬ Faulty e := by
  rcases faultStop_probes h with ⟨hR, pre, e, post, rfl, hpre, he, hpost⟩ | ⟨hR, hτ⟩
  · refine .inl ⟨?_, pre, e, ?_, hpre, he⟩
    · rcases r with e' | u
      · exact congrArg Except.error hR
      · exact hR.elim
    · cases post with
      | nil => rfl
      | cons e' post =>
        -- whatever the calibration reads is a command
        have hprobe := issues_probes hid h e' (by simp)
        obtain ⟨o, r'⟩ := e'
        rcases hpost ⟨o, r'⟩ (by simp) with hl | hl <;> cases (hl : o = _) <;> exact hprobe.elim
  · refine .inr ⟨fun hr => hR (hr ▸ rfl), hτ⟩

/-- What a calibration and its aftermath look like: no fault was met, a read met one and the
re-confirm followed, or SET CD SPEED met one. -/
theorem run_calibrated_cases (hid : mt.bufferId ≠ verifyBufferId) {r : Except UnlockError Unit}
    (h : Run ((calibrated fuel).prog mt) τ (r, mt')) :
    (∀ e ∈ τ, IsCalibration e → ¬ Faulty e) ∨
      (∃ pre e τ', τ = pre ++ e :: τ' ∧ (∀ e' ∈ pre, IsProbe e' ∧ ¬ Faulty e') ∧ IsProbe e ∧
        Faulty e ∧ Run ((reconfirmAfterFault fuel).prog mt) τ' (r, mt')) ∨
      ∃ pre speed, τ = pre ++ [speed] ∧ (∀ e ∈ pre, IsProbe e ∧ ¬ Faulty e) ∧
        IsSetCdSpeed speed ∧ r = .ok () := by
  obtain ⟨τ₁, r₁, t, τ₂, rfl, h₁, h₂⟩ := Stateful.run_attempt_bind_iff.mp h
  have hcalm {e : Error} (h₂ : Run (Stateful.prog (if e.isTransportFailure then
      reconfirmAfterFault fuel else pure ()) t) τ₂ (r, mt')) :
      ∀ e ∈ τ₂, IsCalibration e → ¬ Faulty e := by
    split_ifs at h₂
    · exact fun ev hev hc => absurd hc (not_isCalibration_of_reconfirm h₂ ev hev)
    · rw [(Stateful.run_pure_iff.mp h₂).1]
      nofun
  rcases run_probeDisc h₁ with ⟨rfl, rfl, rfl⟩ | ⟨hcal, rfl⟩
  · obtain ⟨rfl, -, -⟩ := Stateful.run_pure_iff.mp h₂
    exact .inl nofun
  rcases run_calibrate hcal with ⟨e, rfl, hprobes⟩ | ⟨τ', speed, rfl, rfl, hprobes, hspeed⟩
  · have hmt : { mt with probed := mt.probed || (Except.error e : Except Error Unit).isOk } = mt :=
      by simp [Except.isOk, Except.toBool]
    rw [hmt] at h₂ hcalm
    rcases run_probes hid hprobes with ⟨he, pre, ev, rfl, hpre, hev⟩ | ⟨-, hτ⟩
    · obtain rfl := Except.error.inj he
      refine .inr (.inl ⟨pre, ev, τ₂, by simp, fun e' he' => ?_, ?_, hev, ?_⟩)
      · exact ⟨issues_probes hid hprobes e' (by simp [he']), hpre e' he'⟩
      · exact issues_probes hid hprobes ev (by simp)
      · simpa [isTransportFailure_busFault] using h₂
    · refine .inl fun ev hev hc => ?_
      rcases List.mem_append.mp hev with hev | hev
      · exact hτ ev hev
      · exact hcalm h₂ ev hev hc
  · obtain ⟨rfl, hr, -⟩ := Stateful.run_pure_iff.mp h₂
    rcases run_probes hid hprobes with ⟨he, -⟩ | ⟨-, hτ⟩
    · cases he
    · exact .inr (.inr ⟨τ', speed, by simp, fun e he => ⟨issues_probes hid hprobes e he, hτ e he⟩,
        hspeed, hr⟩)

theorem deadBus_of_isProbe {e : Event Scsi} (h : IsProbe e) (hf : Faulty e) : DeadBus e := by
  obtain ⟨o, r⟩ := e
  cases o with
  | execute => exact hf
  | _ => exact h.elim

theorem transport_of_vid {τ₃ : List (Event Scsi)} (h : τ₃ = [] ∨ ∃ e, τ₃ = [e] ∧ IsVidRead e) :
    transport τ₃ = τ₃ := by
  rcases h with rfl | ⟨⟨o, r⟩, rfl, he⟩
  · rfl
  · cases o with
    | execute => rfl
    | _ => exact he.elim

/-- After a read of the calibration met a fault, the rest of the run is its re-confirm. -/
theorem reconfirmed_of_run {τ' τ₃ : List (Event Scsi)} {r₂ : Except UnlockError Unit}
    {r : Except UnlockError Unlocked}
    (hmatch : ∀ reads, Confirmed mt.profile reads → ConfirmedFor catalog id reads)
    (h : Run ((reconfirmAfterFault fuel).prog mt) τ' (r₂, mt'))
    (hend : (∃ e, r₂ = .error e ∧ r = .error e ∧ τ₃ = []) ∨
      r₂ = .ok () ∧ (τ₃ = [] ∨ ∃ e, τ₃ = [e] ∧ IsVidRead e)) :
    Reconfirmed catalog id (τ' ++ τ₃) (fallthrough r) := by
  obtain ⟨p, rest, htransport, hrefused, hok⟩ := run_reconfirmAfterFault h
  have hvid : τ₃ = [] ∨ ∃ e, τ₃ = [e] ∧ IsVidRead e := by
    rcases hend with ⟨-, -, -, rfl⟩ | ⟨-, h⟩
    · exact .inl rfl
    · exact h
  refine ⟨p, rest ++ τ₃, ?_, ?_, fun hp => ⟨rest, τ₃, rfl, (hok hp).1, hvid, ?_, ?_⟩⟩
  · rw [transport_append, htransport, transport_of_vid hvid]
    rfl
  · intro hp
    obtain ⟨rfl, e, rfl⟩ := hrefused hp
    rcases hend with ⟨e', -, rfl, rfl⟩ | ⟨he, -⟩
    · exact ⟨rfl, fun u => by cases e' <;> nofun⟩
    · cases he
  · intro u hu
    rcases hend with ⟨e', -, rfl, -⟩ | ⟨rfl, -⟩
    · cases e' <;> cases hu
    · exact hmatch rest ((hok hp).2.1 rfl)
  · intro hdead
    have hr₂ := (hok hp).2.2 hdead
    rcases hend with ⟨e', he', rfl, -⟩ | ⟨he', -⟩
    · obtain rfl := Except.error.inj (he'.symm.trans hr₂)
      rfl
    · cases he'.symm.trans hr₂

/-- A fault of the calibration is re-confirmed, unless SET CD SPEED met it. -/
theorem unlock_reconfirmsFaults_iff (catalog : Option Profiles) (fuel : ℕ) (ctx : UnlockCtx)
    (τ : List (Event Scsi)) (r : Except UnlockError (Option Unlocked))
    (h : Run (unlock catalog fuel ctx).run τ r) :
    ReconfirmsFaults catalog ctx.driveId τ r ↔ ∀ e ∈ τ, IsSetCdSpeed e → ¬ DeadBus e := by
  have hnone (hτ : ∀ e ∈ τ, IsCalibration e → ¬ DeadBus e) :
      ReconfirmsFaults catalog ctx.driveId τ r ↔ ∀ e ∈ τ, IsSetCdSpeed e → ¬ DeadBus e :=
    iff_of_true (fun pre e post hsplit hc hd => absurd hd (hτ e (by simp [hsplit]) hc))
      fun e he hs => hτ e he (.inr hs)
  rcases run_unlock h with ⟨rfl, -⟩ |
    ⟨profiles, m, mt, mt', r', hp, hm, hprofile, hinit, hid, hrun, rfl⟩
  · exact hnone nofun
  have hmatch (t : Mt1959) (ht : t.profile = mt.profile) (reads : List (Event Scsi))
      (hc : Confirmed t.profile reads) : ConfirmedFor catalog ctx.driveId reads :=
    ⟨profiles, m, hp, hm, hprofile ▸ ht ▸ hc⟩
  rcases run_firmwareUnlockWith hrun with ⟨-, _, _, hinitrun⟩ |
    ⟨τ₁, t, τ₂, r₂, t₂, τ₃, rfl, h₁, -, h₂, hend⟩
  · exact hnone fun e he hc => absurd hc (not_isCalibration_of_initCall (issues_init hinitrun e he))
  have htarget : t.target = mt.target := (run_init_ok hinit h₁).1
  have hid' : t.bufferId ≠ verifyBufferId := by
    rwa [show t.bufferId = mt.bufferId from congrArg (·.2.2) htarget]
  have hτ₁ : ∀ e ∈ τ₁, ¬ IsCalibration e :=
    fun e he => not_isCalibration_of_initCall (issues_init h₁ e he)
  have hτ₃ : ∀ e ∈ τ₃, ¬ IsCalibration e := by
    intro e he
    rcases hend with ⟨-, -, -, rfl⟩ | ⟨-, rfl | ⟨e', rfl, hvid⟩⟩
    · cases he
    · cases he
    · exact List.mem_singleton.mp he ▸ not_isCalibration_of_isVidRead hvid
  rcases run_calibrated_cases hid' h₂ with hτ₂ |
    ⟨pre, e, τ', rfl, hpre, he, hfault, hrec⟩ | ⟨pre, speed, rfl, hpre, hspeed, rfl⟩
  · refine hnone fun e he hc => ?_
    simp only [List.mem_append] at he
    rcases he with (he | he) | he
    · exact absurd hc (hτ₁ e he)
    · exact fun hd => hτ₂ e he hc (faulty_of_deadBus hd)
    · exact absurd hc (hτ₃ e he)
  · -- one read met the fault, and nothing before or after it is a calibration command that did
    have hτ' := not_isCalibration_of_reconfirm hrec
    refine iff_of_true (fun pre' e' post' hsplit hc hd => ?_) fun e' he' hs => ?_
    · have hclean : ∀ x ∈ τ' ++ τ₃, ¬ (IsCalibration x ∧ DeadBus x) := by
        refine List.forall_mem_append.mpr ⟨fun x hx hq => hτ' x hx hq.1, fun x hx hq => ?_⟩
        exact hτ₃ x hx hq.1
      have hends : EndsFatally (fun x => IsCalibration x ∧ DeadBus x) (· = τ' ++ τ₃)
          (τ₁ ++ (pre ++ e :: τ') ++ τ₃) := by
        refine ⟨τ₁ ++ pre, e, τ' ++ τ₃, by simp, ?_, ⟨.inl he, deadBus_of_isProbe he hfault⟩, rfl⟩
        refine List.forall_mem_append.mpr ⟨fun x hx hq => hτ₁ x hx hq.1, fun x hx hq => ?_⟩
        exact (hpre x hx).2 (faulty_of_deadBus hq.2)
      obtain rfl : post' = τ' ++ τ₃ :=
        hends.tail_of_split (fun _ hT => hT ▸ hclean) hsplit ⟨hc, hd⟩
      exact reconfirmed_of_run (hmatch t (profile_of_target htarget)) hrec hend
    · simp only [List.mem_append, List.mem_cons] at he'
      rcases he' with (he' | he' | rfl | he') | he'
      · exact absurd (.inr hs) (hτ₁ e' he')
      · exact absurd hs (not_isSetCdSpeed_of_isProbe (hpre e' he').1)
      · exact absurd hs (not_isSetCdSpeed_of_isProbe he)
      · exact absurd (.inr hs) (hτ' e' he')
      · exact absurd (.inr hs) (hτ₃ e' he')
  · by_cases hdead : DeadBus speed
    · refine iff_of_false (fun hrec => ?_) fun hall => hall speed (by simp) hspeed hdead
      obtain ⟨p, rest, htransport, -⟩ := hrec (τ₁ ++ pre) speed τ₃ (by simp) (.inr hspeed) hdead
      rcases hend with ⟨_, he, -⟩ | ⟨-, hvid⟩
      · cases he
      · -- after SET CD SPEED the run goes on with the Volume ID
        rw [transport_of_vid hvid] at htransport
        rcases hvid with rfl | ⟨vid, rfl, hvid⟩
        · cases htransport
        · obtain ⟨rfl, -⟩ := List.cons.inj htransport
          exact hvid
    · refine hnone fun e he hc hd => ?_
      simp only [List.mem_append, List.mem_singleton] at he
      rcases he with (he | he | rfl) | he
      · exact hτ₁ e he hc
      · exact (hpre e he).2 (faulty_of_deadBus hd)
      · exact hdead hd
      · exact hτ₃ e he hc

end Run

/-! ## Two drives -/

def departingDrive (gone : UInt8) : Handler Scsi Bool
  | .execute cdb dir data t, loaded =>
    if cdb.headD 0 = gone then (⟨deadResult, Vector.replicate data.length 0⟩, loaded)
    else uploadedDrive (.execute cdb dir data t) loaded
  | o, loaded => uploadedDrive o loaded

def speedOp : Event Scsi → Bool
  | ⟨.execute cdb dir _ _, _⟩ => cdb.headD 0 == scsiSetCdSpeed && cdb.length == 12 && dir == .none
  | _ => false

theorem speedOp_iff {e : Event Scsi} : speedOp e = true ↔ IsSetCdSpeed e := by
  obtain ⟨o, r⟩ := e
  cases o with
  | execute => simp [speedOp, IsSetCdSpeed, and_assoc]
  | _ => exact iff_of_false nofun id

/-- A drive that is gone when its capacity is read, and back for the re-confirm. -/
theorem unlock_reconfirmsFaults_capacity : ∃ τ r,
    Run (unlock (some ⟨[sampleProfile], [], []⟩) 1 sampleCtx).run τ r ∧
      ReconfirmsFaults (some ⟨[sampleProfile], [], []⟩) sampleCtx.driveId τ r ∧
      ∃ e ∈ τ, DeadBus e := by
  have hex : (exec (departingDrive scsiReadCapacity)
      (unlock (some ⟨[sampleProfile], [], []⟩) 1 sampleCtx).run true).any
      (fun x => x.2.1.any (goneAt scsiReadCapacity) && !x.2.1.any speedOp) = true := by
    decide +kernel
  obtain ⟨r, τ, _, hrun, hany⟩ := exists_run_of_any hex
  simp only [Bool.and_eq_true, Bool.not_eq_true', List.any_eq_true, List.any_eq_false] at hany
  obtain ⟨⟨e, hmem, hgone⟩, hnone⟩ := hany
  exact ⟨τ, r, hrun, (unlock_reconfirmsFaults_iff _ 1 sampleCtx τ r hrun).mpr fun e' he' hs =>
    absurd (speedOp_iff.mpr hs) (hnone e' he'), e, hmem, deadBus_of_goneAt hgone⟩

/-- A drive that is gone when its speed is set: the unlock is reported without a re-confirm. -/
theorem unlock_not_reconfirmsFaults_speed : ∃ τ,
    Run (unlock (some ⟨[sampleProfile], [], []⟩) 1 sampleCtx).run τ (.ok (some ⟨none, none⟩)) ∧
      ¬ ReconfirmsFaults (some ⟨[sampleProfile], [], []⟩) sampleCtx.driveId τ
        (.ok (some ⟨none, none⟩)) := by
  have hex : (exec (departingDrive scsiSetCdSpeed)
      (unlock (some ⟨[sampleProfile], [], []⟩) 1 sampleCtx).run true).any
      (fun x => x.1.toOption == some (some ⟨none, none⟩) &&
        x.2.1.getLast?.any (fun e => goneAt scsiSetCdSpeed e && speedOp e)) = true := by
    decide +kernel
  obtain ⟨r, τ, _, hrun, hany⟩ := exists_run_of_any hex
  simp only [Bool.and_eq_true, beq_iff_eq, Option.any_eq_true] at hany
  obtain ⟨hr, e, hlast, hgone, hspeed⟩ := hany
  obtain ⟨pre, rfl⟩ := List.getLast?_eq_some_iff.mp hlast
  have hok : r = .ok (some ⟨none, none⟩) := by
    rcases r with err | u
    · cases hr
    · exact congrArg Except.ok (Option.some.inj hr)
  refine ⟨_, hok ▸ hrun, fun hrec => ?_⟩
  obtain ⟨p, rest, htransport, -⟩ := hrec pre e [] rfl
    (.inr (speedOp_iff.mp hspeed)) (deadBus_of_goneAt hgone)
  cases htransport

end FreemkvUnlock.Ld
