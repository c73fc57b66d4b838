import FreemkvUnlock.Interaction.History
import FreemkvUnlock.Ld.Calls

/-! # Confirmed unlocks

The unlock is reported only when the drive's last answer to the unlock read shows it: whatever
was read before, by an upload, a settle or a calibration, is overridden by that answer.
-/

namespace FreemkvUnlock.Ld

open Interaction Fallible

/-- A GOOD answer with enough bytes, the profile's signature and both markers. -/
def Confirms (profile : DriveProfile) (e : Event Scsi) : Prop :=
  match e with
  | ⟨.execute _ _ data _, o⟩ => ∃ r, (o : Outcome data.length).result = .ok r ∧ r.status = 0 ∧
      minUnlockResponse ≤ r.bytesTransferred ∧
      (o : Outcome data.length).data.toList.extract 0 4 = profile.signature.toList ∧
      (o : Outcome data.length).data.toList.extract 12 16 = firmwareActiveSig ∧
      (o : Outcome data.length).data.toList.extract 16 20 = firmwareModeSig
  | _ => False

/-- The last unlock read of a trace confirms the unlock. -/
def Confirmed (profile : DriveProfile) (τ : List (Event Scsi)) : Prop :=
  Since (fun e => IsUnlockRead e ∧ Confirms profile e) IsUnlockRead τ

def ConfirmedFor (catalog : Option Profiles) (id : DriveId) (τ : List (Event Scsi)) : Prop :=
  ∃ profiles m, catalog = some profiles ∧ findByDriveId profiles id = some m ∧ Confirmed m.profile τ

theorem Confirmed.prepend {profile : DriveProfile} {τ : List (Event Scsi)}
    (h : Confirmed profile τ) (ρ : List (Event Scsi)) : Confirmed profile (ρ ++ τ) :=
  Since.prepend h ρ

/-! ## The unlock read -/

section Read

variable {mt mt' : Mt1959} {τ : List (Event Scsi)} {fuel : ℕ} {settled : Option Clock}

/-- What of a driver never changes. -/
def Mt1959.target (mt : Mt1959) : DriveProfile × UInt8 × UInt8 :=
  (mt.profile, mt.mode, mt.bufferId)

theorem profile_of_target {t : Mt1959} (h : t.target = mt.target) : t.profile = mt.profile :=
  congrArg Prod.fst h

/-- What the unlock read makes of its outcome. -/
def unlockReply {n : ℕ} (mt : Mt1959) (o : Outcome n) : Except Error Bool :=
  match o.result with
  | .error e => .error (.ofScsiError e)
  | .ok r => mt.checkResponse r o.data.toList

theorem run_doUnlock {r : Except Error (List UInt8)} (h : Run (doUnlock.prog mt) τ (r, mt')) :
    ∃ o : Outcome (List.replicate unlockResponseSize (0 : UInt8)).length,
      τ = [⟨unlockReadOp mt, o⟩] ∧
      ((∃ e, unlockReply mt o = .error e ∧ r = .error e ∧ mt' = mt) ∨
        ∃ unlocked, unlockReply mt o = .ok unlocked ∧ r = .ok o.data.toList ∧
          mt' = { mt with unlocked := unlocked, initComplete := true }) := by
  unfold unlockReply
  rcases Stateful.run_bind_iff.mp (Stateful.run_get_bind_iff.mp h) with
    ⟨e, rfl, h₁⟩ | ⟨τ₁, ⟨res, response⟩, t, τ₂, rfl, h₁, h₂⟩
  · obtain ⟨h₁, rfl⟩ := Stateful.run_lift_iff.mp h₁
    obtain ⟨o, rfl, ho⟩ := run_issue_iff.mp h₁
    refine ⟨o, rfl, .inl ⟨e, ?_, rfl, rfl⟩⟩
    rcases hres : o.result with err | res
    · rw [hres] at ho
      exact congrArg Except.error (Except.error.inj ho.symm)
    · rw [hres] at ho
      cases ho
  · obtain ⟨h₁, rfl⟩ := Stateful.run_lift_iff.mp h₁
    obtain ⟨o, rfl, ho⟩ := run_issue_iff.mp h₁
    rcases hres : o.result with err | res'
    · rw [hres] at ho
      cases ho
    · rw [hres] at ho
      obtain ⟨rfl, rfl⟩ := Prod.mk.inj (Except.ok.inj ho)
      refine ⟨o, ?_⟩
      rcases Stateful.run_bind_iff.mp h₂ with ⟨e, rfl, h₃⟩ | ⟨τ₁, b, t, τ₂, rfl, h₃, h₄⟩
      · obtain ⟨h₃, rfl⟩ := Stateful.run_lift_iff.mp h₃
        obtain ⟨rfl, he⟩ := run_result_iff.mp h₃
        exact ⟨rfl, .inl ⟨e, by rw [hres]; exact he.symm, rfl, rfl⟩⟩
      · obtain ⟨h₃, rfl⟩ := Stateful.run_lift_iff.mp h₃
        obtain ⟨rfl, hb⟩ := run_result_iff.mp h₃
        obtain ⟨rfl, rfl, rfl⟩ := Stateful.run_pure_iff.mp
          (Stateful.run_set_bind_iff (f := fun _ => pure o.data.toList) |>.mp h₄)
        exact ⟨by simp [unlockReadOp], .inr ⟨b, by rw [hres]; exact hb.symm, rfl, rfl⟩⟩

theorem checkResponse_ok {r : ScsiResult} {response : List UInt8} {unlocked : Bool}
    (h : mt.checkResponse r response = .ok unlocked) :
    r.status = 0 ∧ minUnlockResponse ≤ r.bytesTransferred ∧
      response.extract 0 4 = mt.profile.signature.toList ∧
      response.extract 12 16 = firmwareActiveSig ∧
      (unlocked = true → response.extract 16 20 = firmwareModeSig) := by
  unfold Mt1959.checkResponse at h
  split_ifs at h with hs hn hsig hact
  refine ⟨of_not_not hs, by omega, of_not_not hsig, of_not_not hact, ?_⟩
  rintro rfl
  exact beq_iff_eq.mp (Except.ok.inj h)

theorem confirmed_of_reply {o : Outcome _} {unlocked : Bool}
    (h : unlockReply mt o = .ok unlocked) :
    Mt1959.target { mt with unlocked := unlocked, initComplete := true } = mt.target ∧
      (unlocked = true → Confirmed mt.profile [⟨unlockReadOp mt, o⟩]) := by
  refine ⟨rfl, fun hu => Since.now (h := []) ⟨isUnlockRead_unlockReadOp, ?_⟩⟩
  unfold unlockReply at h
  rcases hres : o.result with err | r
  · rw [hres] at h
    cases h
  · rw [hres] at h
    obtain ⟨hs, hn, hsig, hact, hmode⟩ := checkResponse_ok h
    exact ⟨r, hres, hs, hn, hsig, hact, hmode hu⟩

theorem run_doUnlock_ok {response : List UInt8}
    (h : Run (doUnlock.prog mt) τ (.ok response, mt')) :
    mt'.target = mt.target ∧ (mt'.unlocked = true → Confirmed mt.profile τ) := by
  obtain ⟨o, rfl, ⟨e, -, hr, -⟩ | ⟨unlocked, hreply, -, rfl⟩⟩ := run_doUnlock h
  · cases hr
  · exact confirmed_of_reply hreply

theorem maintains_doUnlock {target : DriveProfile × UInt8 × UInt8} :
    Stateful.Maintains (·.target = target) doUnlock := by
  rintro mt τ r mt' rfl h
  obtain ⟨o, -, ⟨-, -, -, rfl⟩ | ⟨unlocked, -, -, rfl⟩⟩ := run_doUnlock h <;> rfl

/-! ## Reads after an upload -/

variable {clock : Clock} {start : ℕ}

theorem maintains_reconfirmOnce {target : DriveProfile × UInt8 × UInt8} :
    Stateful.Maintains (·.target = target) (reconfirmOnce clock start) := by
  refine .bind (.attempt maintains_doUnlock) fun r => ?_
  rcases r with e | response
  · refine .bind (.lift _) fun t => ?_
    split_ifs
    · exact .bind (.lift _) fun _ => .ret _
    · exact .ret _
  · exact .ret _

/-- One iteration: a read that passes, a failed one that counts, or one of a restarting drive with
the pause after it. -/
theorem run_reconfirmOnce {r : Except Error (Option (Except Error (List UInt8)))}
    (h : Run ((reconfirmOnce clock start).prog mt) τ (r, mt')) :
    ∃ o : Outcome (List.replicate unlockResponseSize (0 : UInt8)).length,
      (∃ unlocked, unlockReply mt o = .ok unlocked ∧ τ = [⟨unlockReadOp mt, o⟩] ∧
        r = .ok (some (.ok o.data.toList)) ∧
        mt' = { mt with unlocked := unlocked, initComplete := true }) ∨
      ∃ (e : Error) (t : ℕ), unlockReply mt o = .error e ∧ mt' = mt ∧
        ((¬ (t - clock - start < readyStall ∧ isRestartSense e = true) ∧
          τ = [⟨unlockReadOp mt, o⟩, ⟨.now, t⟩] ∧ r = .ok (some (.error e))) ∨
        (t - clock - start < readyStall ∧ isRestartSense e = true) ∧
          ∃ p : Except ScsiError Unit,
            τ = [⟨unlockReadOp mt, o⟩, ⟨.now, t⟩, ⟨.pause reconfirmSensePauseMs, p⟩] ∧
            r = (p.mapError Error.ofScsiError).map fun _ => none) := by
  obtain ⟨τ₁, r₁, s, τ₂, rfl, h₁, h₂⟩ := Stateful.run_attempt_bind_iff.mp h
  obtain ⟨o, rfl, ⟨e, hreply, rfl, rfl⟩ | ⟨unlocked, hreply, rfl, rfl⟩⟩ := run_doUnlock h₁
  · rcases Stateful.run_bind_iff.mp h₂ with ⟨_, -, h₃⟩ | ⟨τ₃, now, s', τ₄, rfl, h₃, h₄⟩
    · obtain ⟨_, -, he⟩ := run_elapsed_iff.mp (Stateful.run_lift_iff.mp h₃).1
      cases he
    obtain ⟨hread, rfl⟩ := Stateful.run_lift_iff.mp h₃
    obtain ⟨t, rfl, hnow⟩ := run_elapsed_iff.mp hread
    obtain rfl := Except.ok.inj hnow
    refine ⟨o, .inr ⟨e, t, hreply, ?_⟩⟩
    split_ifs at h₄ with hwindow
    · rcases Stateful.run_bind_iff.mp h₄ with ⟨e', rfl, h₅⟩ | ⟨τ₅, _, s'', τ₆, rfl, h₅, h₆⟩
      · obtain ⟨hwait, rfl⟩ := Stateful.run_lift_iff.mp h₅
        obtain ⟨p, rfl, hp⟩ := run_wait_iff.mp hwait
        exact ⟨rfl, .inr ⟨hwindow, p, rfl, by rw [← hp]; rfl⟩⟩
      · obtain ⟨hwait, rfl⟩ := Stateful.run_lift_iff.mp h₅
        obtain ⟨p, rfl, hp⟩ := run_wait_iff.mp hwait
        obtain ⟨rfl, rfl, rfl⟩ := Stateful.run_pure_iff.mp h₆
        exact ⟨rfl, .inr ⟨hwindow, p, rfl, by rw [← hp]; rfl⟩⟩
    · obtain ⟨rfl, rfl, rfl⟩ := Stateful.run_pure_iff.mp h₄
      exact ⟨rfl, .inl ⟨hwindow, rfl, rfl⟩⟩
  · obtain ⟨rfl, rfl, rfl⟩ := Stateful.run_pure_iff.mp h₂
    exact ⟨o, .inl ⟨unlocked, hreply, by simp, rfl, rfl⟩⟩

theorem run_reconfirmOnce_ok {response : List UInt8}
    (h : Run ((reconfirmOnce clock start).prog mt) τ (.ok (some (.ok response)), mt')) :
    mt'.target = mt.target ∧ (mt'.unlocked = true → Confirmed mt.profile τ) := by
  obtain ⟨o, ⟨unlocked, hreply, rfl, -, rfl⟩ |
    ⟨e, t, -, -, ⟨-, -, hr⟩ | ⟨-, p, -, hr⟩⟩⟩ := run_reconfirmOnce h
  · exact confirmed_of_reply hreply
  · cases hr
  · cases p <;> cases hr

theorem run_reconfirm_ok {response : List UInt8}
    (h : Run ((Stateful.retry (reconfirmOnce clock start) fuel).prog mt) τ
      (.ok (.ok response), mt')) :
    mt'.target = mt.target ∧ (mt'.unlocked = true → Confirmed mt.profile τ) := by
  induction fuel generalizing mt τ with
  | zero => exact absurd h Stateful.not_run_diverge
  | succ fuel ih =>
    rcases Stateful.run_retry_succ_iff.mp h with
      ⟨e, he, -⟩ | ⟨a, ha, h₁⟩ | ⟨τ₁, t, τ₂, rfl, h₁, h₂⟩
    · cases he
    · obtain rfl := Except.ok.inj ha
      exact run_reconfirmOnce_ok h₁
    · obtain ⟨hp, hu⟩ := ih h₂
      have ht : t.target = mt.target := maintains_reconfirmOnce rfl h₁
      exact ⟨hp.trans ht, fun h => (profile_of_target ht ▸ hu h).prepend τ₁⟩

theorem run_unlockRead_ok {response : List UInt8}
    (h : Run ((unlockRead fuel settled).prog mt) τ (.ok response, mt')) :
    mt'.target = mt.target ∧ (mt'.unlocked = true → Confirmed mt.profile τ) := by
  cases settled with
  | none => exact run_doUnlock_ok h
  | some clock =>
    rcases Stateful.run_bind_iff.mp h with ⟨e, he, -⟩ | ⟨τ₁, start, t, τ₂, rfl, h₁, h₂⟩
    · cases he
    · obtain ⟨-, rfl⟩ := Stateful.run_lift_iff.mp h₁
      rcases Stateful.run_bind_iff.mp h₂ with ⟨e, he, -⟩ | ⟨τ₃, r, t', τ₄, rfl, h₃, h₄⟩
      · cases he
      · obtain ⟨h₅, rfl⟩ := Stateful.run_lift_iff.mp h₄
        obtain ⟨rfl, rfl⟩ := run_result_iff.mp h₅
        obtain ⟨hp, hu⟩ := run_reconfirm_ok h₃
        exact ⟨hp, fun h => by simpa using (hu h).prepend τ₁⟩

theorem maintains_unlockRead {target : DriveProfile × UInt8 × UInt8} :
    Stateful.Maintains (·.target = target) (unlockRead fuel settled) := by
  cases settled with
  | none => exact maintains_doUnlock
  | some clock =>
    refine .bind (.lift _) fun start => ?_
    exact .bind (.retry maintains_reconfirmOnce fuel) fun _ => .lift _

end Read

/-! ## Initialization -/

section Init

variable {mt mt' : Mt1959} {τ : List (Event Scsi)} {fuel : ℕ} {settled : Option Clock}
  {profile : DriveProfile} {target : DriveProfile × UInt8 × UInt8}

/-- Driver steps whose success ends with a confirmed read, if the state says unlocked. -/
def Vouched (x : Driver Unit) : Prop :=
  ∀ ⦃mt τ u mt'⦄, Run (x.prog mt) τ (.ok u, mt') →
    mt'.target = mt.target ∧ (mt'.unlocked = true → Confirmed mt.profile τ)

theorem Vouched.after {α : Type} {x : Driver α} {τ₁ τ₂ : List (Event Scsi)} {t : Mt1959}
    (hx : Stateful.Maintains (·.target = mt.target) x) {r : Except Error α}
    (h₁ : Run (x.prog mt) τ₁ (r, t))
    (h : mt'.target = t.target ∧ (mt'.unlocked = true → Confirmed t.profile τ₂)) :
    mt'.target = mt.target ∧ (mt'.unlocked = true → Confirmed mt.profile (τ₁ ++ τ₂)) := by
  have ht : t.target = mt.target := hx rfl h₁
  exact ⟨h.1.trans ht, fun hu => (profile_of_target ht ▸ h.2 hu).prepend τ₁⟩

theorem vouched_unlockConfirmed {τ₁ τ₂ : List (Event Scsi)} {u : Unit} {t : Mt1959}
    (h : Run ((unlockConfirmed fuel settled).prog t) τ₂ (.ok u, mt'))
    (h₁ : t.unlocked = true → Confirmed profile τ₁) :
    mt'.target = t.target ∧ (mt'.unlocked = true → Confirmed profile (τ₁ ++ τ₂)) := by
  cases settled with
  | none =>
    obtain ⟨rfl, -, rfl⟩ := Stateful.run_pure_iff.mp h
    exact ⟨rfl, by simpa using h₁⟩
  | some clock =>
    rcases Stateful.run_bind_iff.mp h with ⟨e, he, -⟩ | ⟨τ₃, m, t', τ₄, rfl, h₃, h₄⟩
    · cases he
    · obtain ⟨hpoll, rfl⟩ := Stateful.run_lift_iff.mp h₃
      obtain ⟨rfl, -, rfl⟩ := Stateful.run_pure_iff.mp h₄
      refine ⟨rfl, fun hu => ?_⟩
      rw [List.append_nil]
      exact Since.append (h₁ hu) fun e he =>
        not_isUnlockRead_of_pollCall (issues_awaitMediaReady hpoll e he)

theorem vouched_unlockAttempt {lost : Error → Driver Unit} (hlost : ∀ e, Vouched (lost e)) :
    Vouched (unlockAttempt fuel settled lost) := by
  intro mt τ u mt' h
  obtain ⟨τ₁, r, t, τ₂, rfl, h₁, h₂⟩ := Stateful.run_attempt_bind_iff.mp h
  rcases r with e | response
  · dsimp only at h₂
    split_ifs at h₂ with hsig htr
    · cases (Stateful.run_throw_iff.mp h₂).2.1
    · cases (Stateful.run_throw_iff.mp h₂).2.1
    · exact Vouched.after maintains_unlockRead h₁ (hlost e h₂)
  · obtain ⟨hp, hu⟩ := run_unlockRead_ok h₁
    obtain ⟨hp', hu'⟩ := vouched_unlockConfirmed h₂ hu
    exact ⟨hp'.trans hp, hu'⟩

theorem maintains_unlockRetries (n : ℕ) :
    Stateful.Maintains (·.target = target) (unlockRetries n) := by
  induction n with
  | zero => exact .bind maintains_doUnlock fun _ => .ret _
  | succ n ih =>
    refine .bind (.attempt maintains_doUnlock) fun r => ?_
    rcases r with e | response
    · dsimp only
      split_ifs
      · exact .throw _
      · exact ih
    · exact .bind (.attempt maintains_doUnlock) fun _ => .ret _

theorem maintains_loadFirmware : Stateful.Maintains (·.target = target) loadFirmware := by
  refine .get_bind fun mt _ => ?_
  split_ifs
  · refine .get_bind fun mt _ => .bind (.lift _) fun _ => .bind (.lift _) fun _ => ?_
    exact .bind maintains_doUnlock fun _ => .bind (.attempt maintains_doUnlock) fun _ => .ret _
  · refine .get_bind fun mt _ => .bind (.lift _) fun _ => .bind (.lift _) fun _ => ?_
    exact maintains_unlockRetries 5

theorem vouched_reload {next : Option Clock → Error → Driver Unit} {lastErr : Error}
    (hnext : ∀ settled e, Vouched (next settled e)) : Vouched (reload next lastErr) := by
  intro mt τ u mt' h
  have hsettle {t : Mt1959} {τ₂ : List (Event Scsi)}
      (h₂ : Run (Stateful.prog (do
        let clock ← Stateful.lift settleAfterUpload
        next (some clock) lastErr) t) τ₂ (.ok u, mt')) :
      mt'.target = t.target ∧ (mt'.unlocked = true → Confirmed t.profile τ₂) := by
    rcases Stateful.run_bind_iff.mp h₂ with ⟨e', he, -⟩ | ⟨τ₃, clock, t', τ₄, rfl, h₃, h₄⟩
    · cases he
    · exact Vouched.after (.lift _) h₃ (hnext _ _ h₄)
  obtain ⟨τ₁, r, t, τ₂, rfl, h₁, h₂⟩ := Stateful.run_attempt_bind_iff.mp h
  refine Vouched.after maintains_loadFirmware h₁ ?_
  rcases r with e | _
  · dsimp only at h₂
    split_ifs at h₂ with htr hre
    · cases (Stateful.run_throw_iff.mp h₂).2.1
    · exact hsettle h₂
    · exact hnext _ _ h₂
  · exact hsettle h₂

theorem vouched_initAttempts (n : ℕ) (settled : Option Clock) (lastErr : Error) :
    Vouched (initAttempts fuel n settled lastErr) := by
  have hthrow (e : Error) : Vouched (throw e) :=
    fun _ _ _ _ h => by cases (Stateful.run_throw_iff.mp h).2.1
  induction n generalizing settled lastErr with
  | zero =>
    cases settled with
    | none => exact hthrow lastErr
    | some clock => exact vouched_unlockAttempt hthrow
  | succ n ih => exact vouched_unlockAttempt fun _ => vouched_reload fun settled e => ih settled e

end Init

/-! ## The unlocker -/

section Unlock

variable {mt mt' : Mt1959} {τ : List (Event Scsi)} {fuel : ℕ} {profile : DriveProfile}

theorem run_reconfirmUnlock_ok {unlocked : Bool}
    (h : Run ((reconfirmUnlock fuel).prog mt) τ (.ok unlocked, mt')) :
    mt'.target = mt.target ∧ unlocked = mt'.unlocked ∧
      (mt'.unlocked = true → Confirmed mt.profile τ) := by
  rcases Stateful.run_bind_iff.mp (Stateful.run_set_bind_iff (f := fun _ => _) |>.mp
    (Stateful.run_get_bind_iff.mp h)) with ⟨e, he, -⟩ | ⟨τ₁, clock, t, τ₂, rfl, h₁, h₂⟩
  · cases he
  · obtain ⟨-, rfl⟩ := Stateful.run_lift_iff.mp h₁
    rcases Stateful.run_bind_iff.mp h₂ with ⟨e, he, -⟩ | ⟨τ₃, response, t, τ₄, rfl, h₃, h₄⟩
    · cases he
    · obtain ⟨rfl, hr, rfl⟩ := Stateful.run_pure_iff.mp
        (Stateful.run_get_bind_iff (f := fun mt : Mt1959 => pure mt.unlocked) |>.mp h₄)
      obtain rfl := Except.ok.inj hr
      obtain ⟨hp, hu⟩ := run_unlockRead_ok h₃
      exact ⟨hp, rfl, fun h => by simpa using (hu h).prepend τ₁⟩

/-- The calibration runs at most once, and only its success is noted in the state. -/
theorem run_probeDisc {r : Except Error Unit} (h : Run (probeDisc.prog mt) τ (r, mt')) :
    (τ = [] ∧ r = .ok () ∧ mt' = mt) ∨ Run (calibrate mt).run τ r ∧
      mt' = { mt with probed := mt.probed || r.isOk } := by
  unfold probeDisc at h
  replace h := Stateful.run_get_bind_iff.mp h
  split_ifs at h with hguard
  · obtain ⟨rfl, rfl, rfl⟩ := Stateful.run_pure_iff.mp h
    exact .inl ⟨rfl, rfl, rfl⟩
  · rw [not_or, Bool.not_eq_false, Bool.not_eq_true] at hguard
    have hcal : Run (Stateful.prog (do
        Stateful.lift (calibrate mt)
        set { mt with probed := true } : Driver Unit) mt) τ (r, mt') := by
      unfold runProbe at h
      replace h := Stateful.run_get_bind_iff.mp h
      rw [if_pos hguard.1] at h
      exact h
    rcases Stateful.run_bind_iff.mp hcal with ⟨e, rfl, h₁⟩ | ⟨τ₁, u, t, τ₂, rfl, h₁, h₂⟩
    · obtain ⟨h₁, rfl⟩ := Stateful.run_lift_iff.mp h₁
      exact .inr ⟨h₁, by simp [Except.isOk, Except.toBool]⟩
    · obtain ⟨h₁, rfl⟩ := Stateful.run_lift_iff.mp h₁
      rw [Stateful.prog_set, run_pure_iff, Prod.mk.injEq] at h₂
      obtain ⟨rfl, rfl, rfl⟩ := h₂
      exact .inr ⟨by simpa using h₁, by simp [Except.isOk, Except.toBool]⟩

/-- After a calibration, with or without a fault, a confirmed unlock has been confirmed last. -/
theorem run_calibrated_ok {τ₁ τ₂ : List (Event Scsi)} (hid : mt.bufferId ≠ verifyBufferId)
    (h : Run ((calibrated fuel).prog mt) τ₂ (.ok (), mt'))
    (h₁ : Confirmed mt.profile τ₁) :
    mt'.profile = mt.profile ∧ Confirmed mt.profile (τ₁ ++ τ₂) := by
  obtain ⟨τ₃, r, t, τ₄, rfl, h₃, h₄⟩ := Stateful.run_attempt_bind_iff.mp h
  have hprobe : t.profile = mt.profile ∧ ∀ e ∈ τ₃, ¬ IsUnlockRead e := by
    rcases run_probeDisc h₃ with ⟨rfl, -, rfl⟩ | ⟨hcal, rfl⟩
    · exact ⟨rfl, nofun⟩
    · exact ⟨rfl, fun e he => not_isUnlockRead_of_isCalibration (issues_calibrate hid hcal e he)⟩
  rw [← List.append_assoc]
  have hkept : Confirmed mt.profile (τ₁ ++ τ₃) := Since.append h₁ hprobe.2
  rcases r with e | _
  · dsimp only at h₄
    split_ifs at h₄
    · rcases Stateful.run_bind_iff.mp h₄ with ⟨e, he, -⟩ | ⟨τ₅, _, t₁, τ₆, rfl, h₅, h₆⟩
      · cases he
      obtain ⟨r', -, h₅⟩ := Stateful.run_mapErr_iff.mp h₅
      obtain ⟨-, rfl⟩ := Stateful.run_lift_iff.mp h₅
      rcases Stateful.run_bind_iff.mp h₆ with ⟨e, he, -⟩ | ⟨τ₇, unlocked, t₂, τ₈, rfl, h₇, h₈⟩
      · cases he
      obtain ⟨r', hr', h₇⟩ := Stateful.run_mapErr_iff.mp h₇
      rcases r' with e | unlocked'
      · cases hr'
      obtain rfl := Except.ok.inj hr'
      obtain ⟨hp, rfl, hu⟩ := run_reconfirmUnlock_ok h₇
      split_ifs at h₈ with hunlocked
      · obtain ⟨rfl, -, rfl⟩ := Stateful.run_pure_iff.mp h₈
        rw [List.append_nil, ← List.append_assoc]
        exact ⟨(profile_of_target hp).trans hprobe.1,
          (hprobe.1 ▸ hu hunlocked).prepend _⟩
      · cases (Stateful.run_throw_iff.mp h₈).2.1
    · obtain ⟨rfl, -, rfl⟩ := Stateful.run_pure_iff.mp h₄
      exact ⟨hprobe.1, by simpa using hkept⟩
  · obtain ⟨rfl, -, rfl⟩ := Stateful.run_pure_iff.mp h₄
    exact ⟨hprobe.1, by simpa using hkept⟩

theorem run_init_ok (hinit : mt.initComplete = false)
    (h : Run ((init fuel).prog mt) τ (.ok (), mt')) :
    mt'.target = mt.target ∧ (mt'.unlocked = true → Confirmed mt.profile τ) := by
  replace h := Stateful.run_get_bind_iff.mp h
  rw [if_neg (by simp [hinit])] at h
  exact vouched_initAttempts unlockAttempts none .unlockFailed h

theorem run_firmwareUnlockWith_ok {u : Unlocked} (hid : mt.bufferId ≠ verifyBufferId)
    (hinit : mt.initComplete = false)
    (h : Run ((firmwareUnlockWith fuel).prog mt) τ (.ok u, mt')) : Confirmed mt.profile τ := by
  rcases run_firmwareUnlockWith h with ⟨⟨e, he⟩, -⟩ |
    ⟨τ₁, t, τ₂, r₂, t₂, τ₃, rfl, h₁, hunlocked, h₂, ⟨e, -, he, -⟩ | ⟨rfl, hvid⟩⟩
  · cases he
  · cases he
  · obtain ⟨htarget, hvouched⟩ := run_init_ok hinit h₁
    have hprofile := profile_of_target htarget
    have hid' : t.bufferId ≠ verifyBufferId := by
      rwa [show t.bufferId = mt.bufferId from congrArg (·.2.2) htarget]
    obtain ⟨-, hconfirmed⟩ := run_calibrated_ok hid' h₂ (hprofile ▸ hvouched hunlocked)
    rw [hprofile] at hconfirmed
    refine Since.append hconfirmed fun e he => ?_
    rcases hvid with rfl | ⟨e', rfl, hvid⟩
    · cases he
    · exact List.mem_singleton.mp he ▸ not_isUnlockRead_of_isVidRead hvid

theorem driverFor_eq_some {catalog : Option Profiles} {id : DriveId}
    (h : driverFor catalog id = some mt) : ∃ profiles m, catalog = some profiles ∧
      findByDriveId profiles id = some m ∧ Mt1959.new m.profile m.platform = some mt := by
  obtain ⟨profiles, hp, h⟩ := Option.bind_eq_some_iff.mp h
  obtain ⟨m, hm, hnew⟩ := Option.bind_eq_some_iff.mp h
  exact ⟨profiles, m, hp, hm, hnew⟩

theorem new_eq_some {platform : Platform} (h : Mt1959.new profile platform = some mt) :
    mt.profile = profile ∧ mt.initComplete = false ∧ mt.unlocked = false ∧ mt.probed = false ∧
      mt.bufferId ≠ verifyBufferId := by
  cases platform with
  | mt1959A =>
    obtain rfl := Option.some.inj h
    exact ⟨rfl, rfl, rfl, rfl, (by decide : bufferIdA ≠ verifyBufferId)⟩
  | mt1959B =>
    obtain rfl := Option.some.inj h
    exact ⟨rfl, rfl, rfl, rfl, (by decide : bufferIdB ≠ verifyBufferId)⟩
  | renesas => cases h

/-- A run of the unlocker is a run on a new driver for the catalog's entry, if there is one. -/
theorem run_unlock {catalog : Option Profiles} {ctx : UnlockCtx}
    {r : Except UnlockError (Option Unlocked)} (h : Run (unlock catalog fuel ctx).run τ r) :
    (τ = [] ∧ r = .ok none) ∨ ∃ profiles m mt mt' r', catalog = some profiles ∧
      findByDriveId profiles ctx.driveId = some m ∧ mt.profile = m.profile ∧
      mt.initComplete = false ∧ mt.bufferId ≠ verifyBufferId ∧
      Run ((firmwareUnlockWith fuel).prog mt) τ (r', mt') ∧ r = fallthrough r' := by
  obtain ⟨r', hrun, rfl⟩ := run_map_iff.mp h
  unfold firmwareUnlock at hrun
  rcases hdriver : driverFor catalog ctx.driveId with _ | mt <;> rw [hdriver] at hrun
  · obtain ⟨rfl, rfl⟩ := Interaction.run_throw_iff.mp hrun
    exact .inl ⟨rfl, rfl⟩
  · obtain ⟨mt', hrun⟩ := Stateful.run_eval_iff.mp hrun
    obtain ⟨profiles, m, hp, hm, hnew⟩ := driverFor_eq_some hdriver
    obtain ⟨hprofile, hinit, -, -, hid⟩ := new_eq_some hnew
    exact .inr ⟨profiles, m, mt, mt', r', hp, hm, hprofile, hinit, hid, hrun, rfl⟩

/-- A reported unlock was confirmed by the last unlock read of the run. -/
theorem unlock_confirmed (catalog : Option Profiles) (fuel : ℕ) (ctx : UnlockCtx)
    (τ : List (Event Scsi)) (u : Unlocked)
    (h : Run (unlock catalog fuel ctx).run τ (.ok (some u))) :
    ConfirmedFor catalog ctx.driveId τ := by
  rcases run_unlock h with ⟨-, hr⟩ |
    ⟨profiles, m, mt, mt', r', hp, hm, hprofile, hinit, hid, h, hr⟩
  · cases hr
  · rcases r' with e | u'
    · cases e <;> cases hr
    · exact ⟨profiles, m, hp, hm, hprofile ▸ run_firmwareUnlockWith_ok hid hinit h⟩

/-! ## A drive that needs one upload -/

/-- A profile whose identity fields are all blank. -/
def sampleProfile : DriveProfile := ⟨⟨"", "", "", "", ""⟩, #v[1, 2, 3, 4], [0xAA], none, none⟩

def sampleCtx : UnlockCtx := ⟨⟨"", "", "", "", ""⟩, .aacs⟩

def activeResponse (n : ℕ) : Vector UInt8 n :=
  let bytes := sampleProfile.signature.toList ++ List.replicate 8 0 ++ firmwareActiveSig ++
    firmwareModeSig
  Vector.ofFn fun i => bytes.getD i 0

/-- A drive that shows the unlock once firmware has been sent to it. -/
def uploadedDrive : Handler Scsi Bool
  | .execute _ dir data _, loaded =>
    (⟨.ok ⟨if loaded = false ∧ data.length = 64 then 2 else 0, data.length,
      Vector.replicate 32 0⟩, activeResponse data.length⟩, loaded || dir == .toDevice)
  | .executeCleanup _ _ data _, loaded =>
    (⟨.ok ⟨0, data.length, Vector.replicate 32 0⟩, Vector.replicate data.length 0⟩, loaded)
  | .pause _, loaded => (.ok (), loaded)
  | .beginCritical, loaded => (.ok (), loaded)
  | .endCritical, loaded => ((), loaded)
  | .now, loaded => ((0 : ℕ), loaded)
  | .fillBytes n, loaded => (Vector.replicate n 0, loaded)
  | .diagnosticMemory _ _ _, loaded => (.error .other, loaded)
  | .quietDrive, loaded => (.unchanged, loaded)

theorem unlock_confirmed_uploaded : ∃ τ,
    Run (unlock (some ⟨[sampleProfile], [], []⟩) 1 sampleCtx).run τ (.ok (some ⟨none, none⟩)) ∧
      ConfirmedFor (some ⟨[sampleProfile], [], []⟩) sampleCtx.driveId τ := by
  have hex : (exec uploadedDrive (unlock (some ⟨[sampleProfile], [], []⟩) 1 sampleCtx).run
      false).any (fun x => x.1.toOption == some (some ⟨none, none⟩)) = true := by decide +kernel
  obtain ⟨r, τ, _, hrun, hr⟩ := exists_run_of_any hex
  rcases r with e | u
  · cases hr
  · obtain rfl := Option.some.inj (beq_iff_eq.mp hr)
    exact ⟨τ, hrun, unlock_confirmed _ 1 sampleCtx τ _ hrun⟩

end Unlock

end FreemkvUnlock.Ld
