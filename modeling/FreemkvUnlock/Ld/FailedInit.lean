import FreemkvUnlock.Ld.Discipline

/-! # What a failed initialization leaves

The driver's flags replay its unlock reads: every response that passes sets them, and nothing
clears them but a re-confirm. An initialization may still fail after such a response, when the
drive is lost while it settles, and the flags then tell of an unlock that was never confirmed.
-/

namespace FreemkvUnlock.Ld

open Interaction Fallible

/-! ## The replay -/

def commandShown {n : ℕ} (mt : Mt1959) (cdb : List UInt8) (dir : DataDirection) (o : Outcome n) :
    Option Bool :=
  if cdb.headD 0 = scsiReadBuffer ∧ dir = .fromDevice ∧ n = unlockResponseSize then
    (unlockReply mt o).toOption
  else none

/-- What an event shows of a driver: the unlock state of a response that passes. -/
def shown (mt : Mt1959) : Event Scsi → Option Bool
  | ⟨.execute cdb dir _ _, o⟩ => commandShown mt cdb dir o
  | _ => none

/-- The two flags the unlock reads set. -/
def Mt1959.flags (mt : Mt1959) : Bool × Bool := (mt.initComplete, mt.unlocked)

def replay (mt : Mt1959) (flags : Bool × Bool) (τ : List (Event Scsi)) : Bool × Bool :=
  τ.foldl (fun flags e => (shown mt e).elim flags fun unlocked => (true, unlocked)) flags

section Replay

variable {m₀ mt : Mt1959} {e : Event Scsi} {τ : List (Event Scsi)} {flags : Bool × Bool}

theorem shown_of_not_isUnlockRead (h : ¬ IsUnlockRead e) : shown mt e = none := by
  obtain ⟨o, r⟩ := e
  cases o with
  | execute cdb dir data t => exact if_neg h
  | _ => rfl

theorem shown_unlockReadOp (o : Outcome _) :
    shown mt ⟨unlockReadOp mt, o⟩ = (unlockReply mt o).toOption := by
  change commandShown mt mt.unlockCdb .fromDevice o = _
  exact if_pos ⟨rfl, rfl, List.length_replicate⟩

theorem commandShown_of_target (h : mt.target = m₀.target) {n : ℕ} (cdb : List UInt8)
    (dir : DataDirection) (o : Outcome n) :
    commandShown mt cdb dir o = commandShown m₀ cdb dir o := by
  unfold commandShown
  rw [unlockReply_of_target h]

theorem shown_of_target (h : mt.target = m₀.target) : shown mt = shown m₀ := by
  funext ⟨o, r⟩
  cases o with
  | execute cdb dir data t => exact commandShown_of_target h cdb dir r
  | _ => rfl

theorem shown_read (h : mt.target = m₀.target) (o : Outcome _) :
    shown m₀ ⟨unlockReadOp mt, o⟩ = (unlockReply mt o).toOption := by
  rw [← shown_of_target h]
  exact shown_unlockReadOp o

theorem replay_append (τ₁ τ₂ : List (Event Scsi)) :
    replay mt flags (τ₁ ++ τ₂) = replay mt (replay mt flags τ₁) τ₂ := List.foldl_append ..

theorem replay_of_forall_none (h : ∀ e ∈ τ, shown mt e = none) : replay mt flags τ = flags := by
  induction τ generalizing flags with
  | nil => rfl
  | cons e τ ih =>
    rw [List.forall_mem_cons] at h
    change replay mt ((shown mt e).elim flags _) τ = flags
    rw [h.1]
    exact ih h.2

/-- A response that passes is never forgotten. -/
theorem replay_fst_iff : (replay mt flags τ).1 = true ↔
    flags.1 = true ∨ ∃ e ∈ τ, shown mt e ≠ none := by
  induction τ generalizing flags with
  | nil => simp [replay]
  | cons e τ ih =>
    change (replay mt ((shown mt e).elim flags _) τ).1 = true ↔ _
    rw [ih, List.exists_mem_cons_iff]
    cases shown mt e <;> simp

/-- An unlocked driver is an initialized one. -/
theorem replay_ordered (h : flags.2 = true → flags.1 = true) :
    (replay mt flags τ).2 = true → (replay mt flags τ).1 = true := by
  induction τ generalizing flags with
  | nil => exact h
  | cons e τ ih =>
    change (replay mt ((shown mt e).elim flags _) τ).2 = true →
      (replay mt ((shown mt e).elim flags _) τ).1 = true
    refine ih ?_
    cases shown mt e with
    | none => exact h
    | some unlocked => exact fun _ => rfl

end Replay

/-! ## The driver's flags -/

/-- Steps whose flags are the replay of their reads. -/
def Tracks (m₀ : Mt1959) {α : Type} (x : Driver α) : Prop :=
  ∀ ⦃mt τ r mt'⦄, mt.target = m₀.target → Run (x.prog mt) τ (r, mt') →
    mt'.target = m₀.target ∧ mt'.flags = replay m₀ mt.flags τ

namespace Tracks

variable {m₀ : Mt1959} {α β : Type}

theorem ret (a : α) : Tracks m₀ (pure a : Driver α) := by
  intro mt τ r mt' hm h
  obtain ⟨rfl, -, rfl⟩ := Stateful.run_pure_iff.mp h
  exact ⟨hm, rfl⟩

theorem throw (e : Error) : Tracks m₀ (MonadExcept.throw e : Driver α) := by
  intro mt τ r mt' hm h
  obtain ⟨rfl, -, rfl⟩ := Stateful.run_throw_iff.mp h
  exact ⟨hm, rfl⟩

theorem lift {x : Step α} (hx : Issues (fun e => ¬ IsUnlockRead e) x.run) :
    Tracks m₀ (Stateful.lift x : Driver α) := by
  intro mt τ r mt' hm h
  obtain ⟨hlift, rfl⟩ := Stateful.run_lift_iff.mp h
  exact ⟨hm, (replay_of_forall_none fun e he => shown_of_not_isUnlockRead (hx hlift e he)).symm⟩

theorem bind {x : Driver α} {f : α → Driver β} (hx : Tracks m₀ x) (hf : ∀ a, Tracks m₀ (f a)) :
    Tracks m₀ (x >>= f) := by
  intro mt τ r mt' hm h
  rcases Stateful.run_bind_iff.mp h with ⟨e, rfl, h₁⟩ | ⟨τ₁, a, t, τ₂, rfl, h₁, h₂⟩
  · exact hx hm h₁
  · obtain ⟨ht, hflags⟩ := hx hm h₁
    obtain ⟨hm', hflags'⟩ := hf a ht h₂
    exact ⟨hm', by rw [replay_append, ← hflags, hflags']⟩

theorem get_bind {f : Mt1959 → Driver β} (hf : ∀ mt, Tracks m₀ (f mt)) :
    Tracks m₀ (MonadState.get >>= f) := fun mt _ _ _ hm h => hf mt hm h

theorem attempt_bind {x : Driver α} {f : Except Error α → Driver β} (hx : Tracks m₀ x)
    (hf : ∀ r, Tracks m₀ (f r)) : Tracks m₀ (Stateful.attempt x >>= f) := by
  intro mt τ r mt' hm h
  obtain ⟨τ₁, r₁, t, τ₂, rfl, h₁, h₂⟩ := Stateful.run_attempt_bind_iff.mp h
  obtain ⟨ht, hflags⟩ := hx hm h₁
  obtain ⟨hm', hflags'⟩ := hf r₁ ht h₂
  exact ⟨hm', by rw [replay_append, ← hflags, hflags']⟩

theorem retry {body : Driver (Option α)} (hb : Tracks m₀ body) (fuel : ℕ) :
    Tracks m₀ (Stateful.retry body fuel) := by
  induction fuel with
  | zero => exact fun mt τ r mt' _ h => absurd h Stateful.not_run_diverge
  | succ fuel ih =>
    refine hb.bind fun o => ?_
    cases o with
    | none => exact ih
    | some a => exact ret a

end Tracks

section Driver

variable {m₀ : Mt1959} {fuel : ℕ} {settled : Option Clock} {clock : Clock} {start : ℕ}

theorem tracks_doUnlock : Tracks m₀ doUnlock := by
  intro mt τ r mt' hm h
  obtain ⟨o, rfl, ⟨e, hreply, -, rfl⟩ | ⟨unlocked, hreply, -, rfl⟩⟩ := run_doUnlock h
  · refine ⟨hm, (replay_of_forall_none ?_).symm⟩
    rw [List.forall_mem_singleton, shown_read hm, hreply]
    rfl
  · refine ⟨hm, ?_⟩
    unfold replay
    rw [List.foldl_cons, shown_read hm, hreply]
    rfl

theorem tracks_unlockRetries (n : ℕ) : Tracks m₀ (unlockRetries n) := by
  induction n with
  | zero => exact .bind tracks_doUnlock fun _ => .ret _
  | succ n ih =>
    refine .attempt_bind tracks_doUnlock fun r => ?_
    rcases r with e | response
    · dsimp only
      split_ifs
      · exact .throw _
      · exact ih
    · exact .attempt_bind tracks_doUnlock fun _ => .ret _

theorem issues_upload_span {opcode mode : UInt8} {firmware : List UInt8} {rest : Step Unit}
    (hrest : Issues (fun e => ¬ IsUnlockRead e) rest.run) :
    Issues (fun e => ¬ IsUnlockRead e)
      (critical (upload opcode mode firmware >>= fun _ => rest)).run :=
  issues_critical (fun _ => id) (fun _ => id)
    (.seq (issues_upload fun _ h => nomatch h.2.1) fun _ => hrest)

theorem issues_spanA {firmware : List UInt8} : Issues (fun e => ¬ IsUnlockRead e) (critical do
    upload scsiWriteBuffer 0x06 firmware
    traceStep verifyCdbA .fromDevice (List.replicate validateResponseSize 0)).run :=
  issues_upload_span (issues_traceStep fun _ h => absurd h.2.2 (by decide))

theorem issues_spanB {firmware verify : List UInt8} :
    Issues (fun e => ¬ IsUnlockRead e) (critical do
      upload scsiModeSelect 0x10 firmware
      traceStep readMetaCdb .fromDevice (List.replicate 16 0)
      traceStep (uploadCdb scsiWriteBuffer 0x06 firmwareExtra.length) .toDevice firmwareExtra
      traceStep verify .none []).run :=
  issues_upload_span (.seq (issues_traceStep fun _ h => absurd h.2.2 (by decide)) fun _ =>
    .seq (issues_traceStep fun _ h => nomatch h.2.1) fun _ =>
    issues_traceStep fun _ h => nomatch h.2.1)

theorem tracks_loadFirmware : Tracks m₀ loadFirmware := by
  refine .get_bind fun mt => ?_
  split_ifs
  · exact .get_bind fun mt => .bind (.lift (.ensure _ _)) fun _ => .bind (.lift issues_spanA)
      fun _ => .bind tracks_doUnlock fun _ => .attempt_bind tracks_doUnlock fun _ => .ret _
  · exact .get_bind fun mt => .bind (.lift (.ensure _ _)) fun _ => .bind (.lift issues_spanB)
      fun _ => tracks_unlockRetries 5

theorem not_isUnlockRead_now (t : ℕ) : ¬ IsUnlockRead ⟨.now, t⟩ := id

theorem not_isUnlockRead_pause {ms : ℕ} (r) : ¬ IsUnlockRead ⟨.pause ms, r⟩ := id

theorem tracks_unlockRead : Tracks m₀ (unlockRead fuel settled) := by
  cases settled with
  | none => exact tracks_doUnlock
  | some clock =>
    refine .bind (.lift (issues_elapsed not_isUnlockRead_now)) fun start =>
      .bind (.retry (.attempt_bind tracks_doUnlock fun r => ?_) fuel) fun r => .lift (.result _)
    rcases r with e | response
    · refine .bind (.lift (issues_elapsed not_isUnlockRead_now)) fun t => ?_
      split_ifs
      · exact .bind (.lift (issues_wait not_isUnlockRead_pause)) fun _ => .ret _
      · exact .ret _
    · exact .ret _

theorem tracks_unlockAttempt {lost : Error → Driver Unit} (hlost : ∀ e, Tracks m₀ (lost e)) :
    Tracks m₀ (unlockAttempt fuel settled lost) := by
  refine .attempt_bind tracks_unlockRead fun r => ?_
  rcases r with e | response
  · dsimp only
    split_ifs
    · exact .throw _
    · exact .throw _
    · exact hlost e
  · cases settled with
    | none => exact .ret _
    | some clock =>
      exact .bind (.lift (issues_awaitMediaReady.mono fun _ => not_isUnlockRead_of_pollCall))
        fun _ => .ret _

theorem tracks_reload {next : Option Clock → Error → Driver Unit} {lastErr : Error}
    (hnext : ∀ settled e, Tracks m₀ (next settled e)) : Tracks m₀ (reload next lastErr) := by
  have hsettle : Tracks m₀ (do
      let clock ← Stateful.lift settleAfterUpload
      next (some clock) lastErr) :=
    .bind (.lift (.seq (.lift (.ask not_isUnlockRead_now)) fun _ =>
      .seq (issues_wait not_isUnlockRead_pause) fun _ => .ret _)) fun _ => hnext _ _
  refine .attempt_bind tracks_loadFirmware fun r => ?_
  rcases r with e | _
  · dsimp only
    split_ifs
    · exact .throw _
    · exact hsettle
    · exact hnext _ _
  · exact hsettle

theorem tracks_initAttempts (n : ℕ) (settled : Option Clock) (lastErr : Error) :
    Tracks m₀ (initAttempts fuel n settled lastErr) := by
  induction n generalizing settled lastErr with
  | zero =>
    cases settled with
    | none => exact .throw _
    | some clock => exact tracks_unlockAttempt fun _ => .throw _
  | succ n ih => exact tracks_unlockAttempt fun _ => tracks_reload fun settled e => ih settled e

theorem tracks_init : Tracks m₀ (init fuel) := by
  refine .get_bind fun mt => ?_
  split_ifs
  · exact .ret _
  · exact tracks_initAttempts _ _ _

/-- The calibration reads nothing the flags depend on, and sets neither of them. -/
theorem tracks_probeDisc (hid : m₀.bufferId ≠ verifyBufferId) : Tracks m₀ probeDisc := by
  intro mt τ r mt' hm h
  rcases run_probeDisc h with ⟨rfl, -, rfl⟩ | ⟨hcal, rfl⟩
  · exact ⟨hm, rfl⟩
  · have hmt : mt.bufferId ≠ verifyBufferId := by
      rwa [show mt.bufferId = m₀.bufferId from congrArg (·.2.2) hm]
    refine ⟨hm, (replay_of_forall_none fun e he => ?_).symm⟩
    exact shown_of_not_isUnlockRead
      (not_isUnlockRead_of_isCalibration (issues_calibrate hmt hcal e he))

/-- A re-confirm starts from a driver that is not unlocked. -/
theorem run_reconfirmUnlock_flags {mt mt' : Mt1959} {τ : List (Event Scsi)}
    {r : Except Error Bool} (hm : mt.target = m₀.target)
    (h : Run ((reconfirmUnlock fuel).prog mt) τ (r, mt')) :
    mt'.target = m₀.target ∧ mt'.flags = replay m₀ (mt.initComplete, false) τ := by
  have hrest : Tracks m₀ (do
      let clock ← Stateful.lift readyClock
      let _ ← unlockRead fuel (some clock)
      let mt ← get
      return mt.unlocked) :=
    .bind (.lift (.lift (.ask not_isUnlockRead_now))) fun clock =>
      .bind tracks_unlockRead fun _ => .get_bind fun _ => .ret _
  exact @hrest { mt with unlocked := false } τ r mt' hm h

end Driver

/-! ## How an initialization ends -/

/-- A command that failed without a sense, or a pause the host refused. -/
def Lost (e : Event Scsi) : Prop :=
  match e with
  | ⟨.execute _ _ data _, o⟩ =>
    ∃ err, (o : Outcome data.length).result = .error err ∧ err.sense = none
  | ⟨.pause _, r⟩ => ∃ err, (r : Except ScsiError Unit) = .error err
  | _ => False

theorem lost_pause {ms : ℕ} (err : ScsiError) :
    Lost ⟨.pause ms, (.error err : Except ScsiError Unit)⟩ := ⟨err, rfl⟩

/-- The last unlock read passed and the drive was not lost after it. -/
def EndsUnlocked (m₀ : Mt1959) (τ : List (Event Scsi)) : Prop :=
  Since (fun e => shown m₀ e ≠ none) (fun e => IsUnlockRead e ∨ Lost e) τ

section Poll

variable {clock : Clock} {answer : ScsiSense} {fuel : ℕ}

/-- Steps of the poll that fail exactly when the drive is lost. -/
abbrev LostStops {σ ε α : Type} (x : Stateful Scsi σ ε α) : Prop :=
  ∀ s, HaltsOn Lost NoTail (fun q => Fails (fun _ => True) q.1) (x.prog s)

theorem lostStops_lift {σ ε α : Type} {x : Fallible Scsi ε α}
    (hx : HaltsOn Lost NoTail (Fails fun _ => True) x.run) :
    LostStops (Stateful.lift x : Stateful Scsi σ ε α) := fun _ => hx.map fun _ => Iff.rfl

theorem lostStop_elapsed : HaltsOn Lost NoTail (Fails fun _ => True) clock.elapsed.run :=
  .seq (.lift (.ask fun _ => id)) fun _ => .ret _

theorem lostStop_wait {ms : ℕ} : HaltsOn Lost NoTail (Fails fun _ => True) (wait ms).run := by
  refine .askResult (fun p => ?_) rfl
  change _ ↔ ∃ err, (p : Except ScsiError Unit) = .error err
  rcases p with err | _
  · exact iff_of_true trivial ⟨err, rfl⟩
  · exact iff_of_false id nofun

theorem lostStop_testUnitReady :
    HaltsOn Lost NoTail (Fails fun _ => True) testUnitReady.run := by
  refine .askResult (fun o => ?_) rfl
  change _ ↔ ∃ err, o.result = .error err ∧ err.sense = none
  unfold turReply
  rcases o.result with ⟨status, _ | sense⟩ | r
  · exact iff_of_true trivial ⟨_, rfl, rfl⟩
  · simp
  · dsimp only
    split_ifs <;> simp

theorem lostStop_startUnit : HaltsOn Lost NoTail (Fails fun _ => True) startUnit.run := by
  refine .askResult (fun o => ?_) rfl
  change _ ↔ ∃ err, o.result = .error err ∧ err.sense = none
  unfold startUnitReply
  rcases o.result with ⟨status, _ | sense⟩ | r
  · simp
  · simp
  · simp

theorem lostStops_startOnce : LostStops (startOnce clock answer) := by
  intro poll
  refine Stateful.haltsOn_bind (.pure id) fun s t => ?_
  split_ifs
  · exact Stateful.haltsOn_bind (lostStops_lift lostStop_elapsed t) fun now t =>
      Stateful.haltsOn_bind (.pure id) fun _ t => lostStops_lift lostStop_startUnit t
  · exact .pure id

theorem lostStops_progress : LostStops (progress clock answer) := by
  intro poll
  refine Stateful.haltsOn_bind (.pure id) fun s t =>
    Stateful.haltsOn_bind (lostStops_lift lostStop_elapsed t) fun now t => ?_
  split_ifs
  · exact .pure id
  · exact .pure id
  · exact Stateful.haltsOn_bind (.pure id) fun _ t => .pure id

theorem lostStops_pollOnce : LostStops (pollOnce clock) := by
  intro poll
  refine Stateful.haltsOn_bind (lostStops_lift lostStop_testUnitReady poll) fun sense t => ?_
  rcases sense with _ | sense
  · exact .pure id
  refine Stateful.haltsOn_bind (.pure id) fun s t => Stateful.haltsOn_bind (.pure id) fun _ t => ?_
  cases (s.note (ScsiSense.fromBuf sense)).outcome (ScsiSense.fromBuf sense) with
  | some outcome => exact .pure id
  | none =>
    refine Stateful.haltsOn_bind (lostStops_startOnce t) fun _ t =>
      Stateful.haltsOn_bind (lostStops_progress t) fun o t => ?_
    cases o with
    | some outcome => exact .pure id
    | none =>
      exact Stateful.haltsOn_bind (lostStops_lift lostStop_wait t) fun _ t => .pure id

theorem lostStop_awaitMediaReady :
    HaltsOn Lost NoTail (Fails fun _ => True) (awaitMediaReady fuel clock).run := by
  refine .seq lostStop_elapsed fun t => ?_
  exact (Stateful.haltsOn_retry lostStops_pollOnce (fun _ => Iff.rfl) (fun _ => Iff.rfl) id
    fuel _).map fun _ => Iff.rfl

end Poll

section Ends

variable {m₀ mt mt' : Mt1959} {h τ : List (Event Scsi)} {fuel : ℕ} {settled : Option Clock}
  {clock : Clock} {start : ℕ}

theorem not_endsUnlocked_of_read (hread : ∃ e ∈ τ, IsUnlockRead e)
    (hτ : ¬ EndsUnlocked m₀ τ) : ¬ EndsUnlocked m₀ (h ++ τ) := by
  intro hs
  rcases Since.append_cases hs with ⟨-, hclean⟩ | hs
  · obtain ⟨e, he, hr⟩ := hread
    exact hclean e he (.inl hr)
  · exact hτ hs

theorem not_endsUnlocked_of_forall (hτ : ∀ e ∈ τ, shown m₀ e = none) : ¬ EndsUnlocked m₀ τ := by
  rintro ⟨pre, e, post, rfl, he, -⟩
  exact he (hτ e (by simp))

theorem not_endsUnlocked_of_lost (hreads : ∀ e ∈ τ, ¬ IsUnlockRead e)
    (hlost : ∃ e ∈ τ, Lost e) : ¬ EndsUnlocked m₀ (h ++ τ) := by
  intro hs
  rcases Since.append_cases hs with ⟨-, hclean⟩ | hs
  · obtain ⟨e, he, hl⟩ := hlost
    exact hclean e he (.inr hl)
  · exact not_endsUnlocked_of_forall
      (fun e he => shown_of_not_isUnlockRead (hreads e he)) hs

def Reads (m₀ : Mt1959) (τ : List (Event Scsi)) (ok : Bool) : Prop :=
  (∃ e ∈ τ, IsUnlockRead e) ∧ (ok = true ↔ EndsUnlocked m₀ τ) ∧
    (ok = false → ∀ e ∈ τ, shown m₀ e = none)

theorem reads_doUnlock {r : Except Error (List UInt8)} (hm : mt.target = m₀.target)
    (hrun : Run (doUnlock.prog mt) τ (r, mt')) : Reads m₀ τ r.isOk := by
  obtain ⟨o, rfl, ⟨e, hreply, rfl, -⟩ | ⟨unlocked, hreply, rfl, -⟩⟩ := run_doUnlock hrun
  · have hnone : ∀ ev ∈ [(⟨unlockReadOp mt, o⟩ : Event Scsi)], shown m₀ ev = none := by
      rw [List.forall_mem_singleton, shown_read hm, hreply]
      rfl
    exact ⟨⟨_, List.mem_singleton_self _, isUnlockRead_unlockReadOp⟩,
      iff_of_false nofun (not_endsUnlocked_of_forall hnone), fun _ => hnone⟩
  · refine ⟨⟨_, List.mem_singleton_self _, isUnlockRead_unlockReadOp⟩,
      iff_of_true rfl ⟨[], _, [], rfl, ?_, List.forall_mem_nil _⟩, nofun⟩
    change shown m₀ _ ≠ none
    rw [shown_read hm, hreply]
    nofun

theorem Reads.prepend {τ₁ τ₂ : List (Event Scsi)} {ok : Bool}
    (h₁ : ∀ e ∈ τ₁, shown m₀ e = none) (h₂ : Reads m₀ τ₂ ok) : Reads m₀ (τ₁ ++ τ₂) ok := by
  obtain ⟨⟨e, he, hread⟩, hends, hnone⟩ := h₂
  refine ⟨⟨e, List.mem_append_right τ₁ he, hread⟩, hends.trans ⟨fun h => h.prepend τ₁, fun h => ?_⟩,
    fun hok => List.forall_mem_append.mpr ⟨h₁, hnone hok⟩⟩
  exact (Since.append_cases h).resolve_left fun h => not_endsUnlocked_of_forall h₁ h.1

def passed {α : Type} : Except Error (Option (Except Error α)) → Bool
  | .ok (some (.ok _)) => true
  | _ => false

theorem reads_reconfirmOnce {x : Except Error (Option (Except Error (List UInt8)))}
    (hm : mt.target = m₀.target)
    (hrun : Run ((reconfirmOnce clock start).prog mt) τ (x, mt')) : Reads m₀ τ (passed x) := by
  have hfailed : ∀ {o : Outcome _} {e : Error} {σ : List (Event Scsi)},
      unlockReply mt o = .error e → (∀ ev ∈ σ, shown m₀ ev = none) →
      Reads m₀ (⟨unlockReadOp mt, o⟩ :: σ) false := by
    intro o e σ hreply hσ
    have hnone : ∀ ev ∈ (⟨unlockReadOp mt, o⟩ : Event Scsi) :: σ, shown m₀ ev = none := by
      refine List.forall_mem_cons.mpr ⟨?_, hσ⟩
      rw [shown_read hm, hreply]
      rfl
    exact ⟨⟨_, List.mem_cons_self, isUnlockRead_unlockReadOp⟩,
      iff_of_false nofun (not_endsUnlocked_of_forall hnone), fun _ => hnone⟩
  obtain ⟨o, ⟨unlocked, hreply, rfl, rfl, -⟩ |
    ⟨e, t, hreply, -, ⟨-, rfl, rfl⟩ | ⟨-, p, rfl, rfl⟩⟩⟩ := run_reconfirmOnce hrun
  · refine ⟨⟨_, List.mem_singleton_self _, isUnlockRead_unlockReadOp⟩,
      iff_of_true rfl ⟨[], _, [], rfl, ?_, List.forall_mem_nil _⟩, nofun⟩
    change shown m₀ _ ≠ none
    rw [shown_read hm, hreply]
    nofun
  · exact hfailed hreply (by simp [shown])
  · cases p <;> exact hfailed hreply (by simp [shown])

theorem reads_reconfirm {r : Except Error (Except Error (List UInt8))}
    (hm : mt.target = m₀.target)
    (hrun : Run ((Stateful.retry (reconfirmOnce clock start) fuel).prog mt) τ (r, mt')) :
    Reads m₀ τ (r.bind id).isOk := by
  induction fuel generalizing mt τ with
  | zero => exact absurd hrun Stateful.not_run_diverge
  | succ fuel ih =>
    rcases Stateful.run_retry_succ_iff.mp hrun with
      ⟨e, rfl, h₁⟩ | ⟨a, rfl, h₁⟩ | ⟨τ₁, t, τ₂, rfl, h₁, h₂⟩
    · exact reads_reconfirmOnce hm h₁
    · cases a <;> exact reads_reconfirmOnce hm h₁
    · have ht : t.target = m₀.target := maintains_reconfirmOnce hm h₁
      exact (ih ht h₂).prepend ((reads_reconfirmOnce hm h₁).2.2 rfl)

theorem reads_unlockRead {r : Except Error (List UInt8)} (hm : mt.target = m₀.target)
    (hrun : Run ((unlockRead fuel settled).prog mt) τ (r, mt')) : Reads m₀ τ r.isOk := by
  cases settled with
  | none => exact reads_doUnlock hm hrun
  | some clock =>
    rcases Stateful.run_bind_iff.mp hrun with ⟨e, -, h₁⟩ | ⟨τ₁, start, t, τ₂, rfl, h₁, h₂⟩
    · obtain ⟨_, -, he⟩ := run_elapsed_iff.mp (Stateful.run_lift_iff.mp h₁).1
      cases he
    obtain ⟨hnow, rfl⟩ := Stateful.run_lift_iff.mp h₁
    obtain ⟨now, rfl, -⟩ := run_elapsed_iff.mp hnow
    refine Reads.prepend (by simp [shown]) ?_
    rcases Stateful.run_bind_iff.mp h₂ with ⟨e, rfl, h₃⟩ | ⟨τ₃, x, t', τ₄, rfl, h₃, h₄⟩
    · exact reads_reconfirm hm h₃
    · obtain ⟨hresult, rfl⟩ := Stateful.run_lift_iff.mp h₄
      obtain ⟨rfl, rfl⟩ := run_result_iff.mp hresult
      rw [List.append_nil]
      exact reads_reconfirm hm h₃

theorem not_endsUnlocked_unlockRetries {n : ℕ} {e : Error} (hm : mt.target = m₀.target)
    (hrun : Run ((unlockRetries n).prog mt) τ (.error e, mt')) : ¬ EndsUnlocked m₀ τ := by
  induction n generalizing mt τ with
  | zero =>
    rcases Stateful.run_bind_iff.mp hrun with ⟨_, -, h₁⟩ | ⟨τ₁, _, t, τ₂, rfl, -, h₂⟩
    · exact fun h => nomatch (reads_doUnlock hm h₁).2.1.mpr h
    · cases (Stateful.run_pure_iff.mp h₂).2.1
  | succ n ih =>
    obtain ⟨τ₁, r, t, τ₂, rfl, h₁, h₂⟩ := Stateful.run_attempt_bind_iff.mp hrun
    rcases r with e' | response
    · have hreads := reads_doUnlock hm h₁
      have ht : t.target = m₀.target := maintains_doUnlock hm h₁
      have hfirst : ¬ EndsUnlocked m₀ τ₁ := fun h => nomatch hreads.2.1.mpr h
      dsimp only at h₂
      split_ifs at h₂
      · rwa [(Stateful.run_throw_iff.mp h₂).1, List.append_nil]
      · intro h
        exact (Since.append_cases h).elim (fun h => hfirst h.1) (ih ht h₂)
    · obtain ⟨_, _, _, _, rfl, -, h₄⟩ := Stateful.run_attempt_bind_iff.mp h₂
      cases (Stateful.run_pure_iff.mp h₄).2.1

theorem not_endsUnlocked_lift_bind {α : Type} {x : Step α} {f : α → Driver Unit} {e : Error}
    (hx : Issues (fun e => ¬ IsUnlockRead e) x.run)
    (hf : ∀ a σ, Run ((f a).prog mt) σ (.error e, mt') → ¬ EndsUnlocked m₀ σ)
    (hrun : Run ((Stateful.lift x >>= f).prog mt) τ (.error e, mt')) : ¬ EndsUnlocked m₀ τ := by
  have hnone : ∀ {ρ : List (Event Scsi)} {y : Except Error α}, Run x.run ρ y →
      ¬ EndsUnlocked m₀ ρ := fun h =>
    not_endsUnlocked_of_forall fun e he => shown_of_not_isUnlockRead (hx h e he)
  rcases Stateful.run_bind_iff.mp hrun with ⟨_, -, h₁⟩ | ⟨τ₁, a, t, τ₂, rfl, h₁, h₂⟩
  · exact hnone (Stateful.run_lift_iff.mp h₁).1
  · obtain ⟨hlift, rfl⟩ := Stateful.run_lift_iff.mp h₁
    exact fun h => (Since.append_cases h).elim (fun h => hnone hlift h.1) (hf a τ₂ h₂)

theorem not_endsUnlocked_loadFirmware {e : Error} (hm : mt.target = m₀.target)
    (hrun : Run (loadFirmware.prog mt) τ (.error e, mt')) : ¬ EndsUnlocked m₀ τ := by
  replace hrun := Stateful.run_get_bind_iff.mp hrun
  split_ifs at hrun
  · replace hrun := Stateful.run_get_bind_iff.mp hrun
    refine not_endsUnlocked_lift_bind (.ensure _ _) (fun _ σ h => ?_) hrun
    refine not_endsUnlocked_lift_bind issues_spanA (fun _ σ h => ?_) h
    rcases Stateful.run_bind_iff.mp h with ⟨_, -, h₁⟩ | ⟨τ₁, _, t, τ₂, rfl, -, h₂⟩
    · exact fun h => nomatch (reads_doUnlock hm h₁).2.1.mpr h
    · obtain ⟨_, _, _, _, rfl, -, h₄⟩ := Stateful.run_attempt_bind_iff.mp h₂
      cases (Stateful.run_pure_iff.mp h₄).2.1
  · replace hrun := Stateful.run_get_bind_iff.mp hrun
    refine not_endsUnlocked_lift_bind (.ensure _ _) (fun _ σ h => ?_) hrun
    exact not_endsUnlocked_lift_bind issues_spanB
      (fun _ σ h => not_endsUnlocked_unlockRetries hm h) h

def Decides (m₀ : Mt1959) (P : List (Event Scsi) → Prop) (x : Driver Unit) : Prop :=
  ∀ ⦃h mt τ r mt'⦄, mt.target = m₀.target → P h → Run (x.prog mt) τ (r, mt') →
    (r.isOk = true ↔ EndsUnlocked m₀ (h ++ τ))

theorem decides_throw {e : Error} :
    Decides m₀ (fun h => ¬ EndsUnlocked m₀ h) (throw e : Driver Unit) := by
  intro h mt τ r mt' _ hh hrun
  obtain ⟨rfl, rfl, -⟩ := Stateful.run_throw_iff.mp hrun
  rw [List.append_nil]
  exact iff_of_false nofun hh

/-- After a read that passed only losing the drive is a failure. -/
theorem isOk_unlockConfirmed_iff {r : Except Error Unit} (hh : EndsUnlocked m₀ h)
    (hrun : Run ((unlockConfirmed fuel settled).prog mt) τ (r, mt')) :
    r.isOk = true ↔ EndsUnlocked m₀ (h ++ τ) := by
  cases settled with
  | none =>
    obtain ⟨rfl, rfl, -⟩ := Stateful.run_pure_iff.mp hrun
    rw [List.append_nil]
    exact iff_of_true rfl hh
  | some clock =>
    rcases Stateful.run_bind_iff.mp hrun with ⟨e, rfl, h₁⟩ | ⟨τ₁, _, t, τ₂, rfl, h₁, h₂⟩
    · have hpoll := (Stateful.run_lift_iff.mp h₁).1
      refine iff_of_false nofun (not_endsUnlocked_of_lost (fun e he =>
        not_isUnlockRead_of_pollCall (issues_awaitMediaReady hpoll e he)) ?_)
      exact (lostStop_awaitMediaReady.result_iff hpoll).mp trivial
    · have hpoll := (Stateful.run_lift_iff.mp h₁).1
      obtain ⟨rfl, rfl, -⟩ := Stateful.run_pure_iff.mp h₂
      rw [List.append_nil]
      refine iff_of_true rfl (Since.append hh fun e he => not_or.mpr ⟨?_, fun hlost => ?_⟩)
      · exact not_isUnlockRead_of_pollCall (issues_awaitMediaReady hpoll e he)
      · exact (lostStop_awaitMediaReady.result_iff hpoll).mpr ⟨e, he, hlost⟩

theorem decides_unlockAttempt {lost : Error → Driver Unit}
    (hlost : ∀ e, Decides m₀ (fun h => ¬ EndsUnlocked m₀ h) (lost e)) :
    Decides m₀ (fun _ => True) (unlockAttempt fuel settled lost) := by
  intro h mt τ r mt' hm _ hrun
  obtain ⟨τ₁, r₁, t, τ₂, rfl, h₁, h₂⟩ := Stateful.run_attempt_bind_iff.mp hrun
  obtain ⟨hread, hends, -⟩ := reads_unlockRead hm h₁
  have ht : t.target = m₀.target := maintains_unlockRead hm h₁
  rw [← List.append_assoc]
  rcases r₁ with e | response
  · have hh : ¬ EndsUnlocked m₀ (h ++ τ₁) :=
      not_endsUnlocked_of_read hread fun h => nomatch hends.mpr h
    dsimp only at h₂
    split_ifs at h₂
    · exact decides_throw ht hh h₂
    · exact decides_throw ht hh h₂
    · exact hlost e ht hh h₂
  · exact isOk_unlockConfirmed_iff (Since.prepend (hends.mp rfl) h) h₂

theorem decides_reload {next : Option Clock → Error → Driver Unit} {lastErr : Error}
    (hsome : ∀ clock e, Decides m₀ (fun _ => True) (next (some clock) e))
    (hnone : ∀ e, Decides m₀ (fun h => ¬ EndsUnlocked m₀ h) (next none e)) :
    Decides m₀ (fun h => ¬ EndsUnlocked m₀ h) (reload next lastErr) := by
  have hsettle : Decides m₀ (fun _ => True) (do
      let clock ← Stateful.lift settleAfterUpload
      next (some clock) lastErr) := by
    intro h mt τ r mt' hm _ hrun
    rcases Stateful.run_bind_iff.mp hrun with ⟨e, rfl, h₁⟩ | ⟨τ₁, clock, t, τ₂, rfl, h₁, h₂⟩
    · obtain ⟨_, p, rfl, ⟨err, rfl, -⟩ | ⟨-, he⟩⟩ :=
        run_settleAfterUpload (Stateful.run_lift_iff.mp h₁).1
      · refine iff_of_false nofun (not_endsUnlocked_of_lost ?_
          ⟨_, List.mem_cons_of_mem _ (List.mem_singleton_self _), lost_pause err⟩)
        exact List.forall_mem_cons.mpr ⟨id, List.forall_mem_singleton.mpr id⟩
      · cases he
    · obtain ⟨-, rfl⟩ := Stateful.run_lift_iff.mp h₁
      rw [← List.append_assoc]
      exact hsome clock lastErr hm trivial h₂
  intro h mt τ r mt' hm hh hrun
  obtain ⟨τ₁, r₁, t, τ₂, rfl, h₁, h₂⟩ := Stateful.run_attempt_bind_iff.mp hrun
  have ht : t.target = m₀.target := maintains_loadFirmware hm h₁
  rw [← List.append_assoc]
  rcases r₁ with e | _
  · have hfailed : ¬ EndsUnlocked m₀ (h ++ τ₁) := fun hs =>
      (Since.append_cases hs).elim (fun hs => hh hs.1) (not_endsUnlocked_loadFirmware hm h₁)
    dsimp only at h₂
    split_ifs at h₂
    · exact decides_throw ht hfailed h₂
    · exact hsettle ht trivial h₂
    · exact hnone e ht hfailed h₂
  · exact hsettle ht trivial h₂

theorem decides_initAttempts (n : ℕ) :
    (∀ clock e, Decides m₀ (fun _ => True) (initAttempts fuel n (some clock) e)) ∧
      ∀ e, Decides m₀ (fun h => ¬ EndsUnlocked m₀ h) (initAttempts fuel n none e) := by
  induction n with
  | zero => exact ⟨fun _ _ => decides_unlockAttempt fun _ => decides_throw, fun _ => decides_throw⟩
  | succ n ih =>
    have hstep : ∀ settled e,
        Decides m₀ (fun _ => True) (initAttempts fuel (n + 1) settled e) := fun settled e =>
      decides_unlockAttempt fun _ => decides_reload ih.1 ih.2
    exact ⟨fun clock e => hstep _ e, fun e h mt τ r mt' hm _ => hstep none e hm trivial⟩

end Ends

/-! ## Sequences of calls -/

inductive Call
  | init
  | probeDisc
  | reconfirmUnlock
  deriving DecidableEq

def Call.steps (fuel : ℕ) : Call → Driver Unit
  | init => Ld.init fuel
  | probeDisc => Ld.probeDisc
  | reconfirmUnlock => do
    let _ ← Ld.reconfirmUnlock fuel
    pure ()

structure Entry where
  call : Call
  events : List (Event Scsi)
  failed : Bool
  after : Mt1959

inductive Calls (fuel : ℕ) : Mt1959 → List Entry → Prop
  | nil (mt : Mt1959) : Calls fuel mt []
  | cons {mt mt' call τ r es} : Run ((Call.steps fuel call).prog mt) τ (r, mt') →
      Calls fuel mt' es → Calls fuel mt (⟨call, τ, !r.isOk, mt'⟩ :: es)

/-- After a failed initialization the driver is locked until an unlock read passes: another one
starts with the unlock read, and a calibration before that sends nothing. -/
def FailedInitLocks (m₀ : Mt1959) (es : List Entry) : Prop :=
  ∀ pre e mid post, es = pre ++ e :: (mid ++ post) → e.call = .init → e.failed = true →
    (∀ x ∈ mid, ∀ ev ∈ x.events, shown m₀ ev = none) →
    (∀ x ∈ e :: mid, x.after.initComplete = false ∧ x.after.unlocked = false) ∧
      ∀ x ∈ post.head?, (x.call = .init → ∃ o ρ, x.events = ⟨unlockReadOp m₀, o⟩ :: ρ) ∧
        (x.call = .probeDisc → x.events = [])

/-- An unlock read that passed is the last one or followed by a last one that passed too, and the
drive is not lost after it. -/
def UnlockKept (m₀ : Mt1959) (τ : List (Event Scsi)) : Prop :=
  (∃ e ∈ τ, shown m₀ e ≠ none) → EndsUnlocked m₀ τ

section Sequences

variable {m₀ mt mt' : Mt1959} {τ : List (Event Scsi)} {fuel : ℕ} {r : Except Error Unit}
  {es : List Entry}

def Kept (m₀ mt : Mt1959) : Prop :=
  mt.target = m₀.target ∧ (mt.flags.2 = true → mt.flags.1 = true)

/-- The flags a call starts its reads from. -/
def Call.before : Call → Mt1959 → Bool × Bool
  | .reconfirmUnlock, mt => (mt.initComplete, false)
  | _, mt => mt.flags

theorem run_steps_flags {call : Call} (hid : m₀.bufferId ≠ verifyBufferId)
    (hm : mt.target = m₀.target) (h : Run ((call.steps fuel).prog mt) τ (r, mt')) :
    mt'.target = m₀.target ∧ mt'.flags = replay m₀ (call.before mt) τ := by
  cases call with
  | init => exact tracks_init hm h
  | probeDisc => exact tracks_probeDisc hid hm h
  | reconfirmUnlock =>
    rcases Stateful.run_bind_iff.mp h with ⟨_, -, h₁⟩ | ⟨τ₁, _, t, τ₂, rfl, h₁, h₂⟩
    · exact run_reconfirmUnlock_flags hm h₁
    · obtain ⟨rfl, -, rfl⟩ := Stateful.run_pure_iff.mp h₂
      rw [List.append_nil]
      exact run_reconfirmUnlock_flags hm h₁

theorem Kept.step {call : Call} (hid : m₀.bufferId ≠ verifyBufferId) (hm : Kept m₀ mt)
    (h : Run ((call.steps fuel).prog mt) τ (r, mt')) : Kept m₀ mt' := by
  obtain ⟨ht, hflags⟩ := run_steps_flags hid hm.1 h
  refine ⟨ht, ?_⟩
  rw [hflags]
  refine replay_ordered ?_
  cases call with
  | init | probeDisc => exact hm.2
  | reconfirmUnlock => nofun

theorem Calls.split (hid : m₀.bufferId ≠ verifyBufferId) {pre post : List Entry}
    (hm : Kept m₀ mt) (h : Calls fuel mt (pre ++ post)) :
    ∃ t, Kept m₀ t ∧ Calls fuel t post := by
  induction pre generalizing mt with
  | nil => exact ⟨mt, hm, h⟩
  | cons x pre ih =>
    cases h with
    | cons hrun hrest => exact ih (hm.step hid hrun) hrest

/-- An initialization reports success when it ends unlocked. -/
theorem run_init_iff (hm : mt.target = m₀.target) (h : Run ((init fuel).prog mt) τ (r, mt')) :
    mt.initComplete = true ∧ τ = [] ∧ r = .ok () ∨
      mt.initComplete = false ∧ (r.isOk = true ↔ EndsUnlocked m₀ τ) ∧
        ∃ o ρ, τ = ⟨unlockReadOp m₀, o⟩ :: ρ := by
  replace h := Stateful.run_get_bind_iff.mp h
  split_ifs at h with hc
  · obtain ⟨rfl, rfl, -⟩ := Stateful.run_pure_iff.mp h
    exact .inl ⟨hc, rfl, rfl⟩
  · have hdecides := (decides_initAttempts 3).2 Error.unlockFailed (h := []) hm
      (not_endsUnlocked_of_forall (List.forall_mem_nil _)) h
    refine .inr ⟨eq_false_of_ne_true hc, hdecides, ?_⟩
    obtain ⟨τ₁, r₁, t, τ₂, rfl, h₁, -⟩ := Stateful.run_attempt_bind_iff.mp h
    obtain ⟨o, rfl, -⟩ := run_doUnlock h₁
    rw [unlockRead_of_target hm]
    exact ⟨o, τ₂, rfl⟩

/-- A locked driver stays locked while no read passes. -/
theorem Calls.locked (hid : m₀.bufferId ≠ verifyBufferId) {mid post : List Entry}
    (hm : mt.target = m₀.target) (hlocked : mt.flags = (false, false))
    (hmid : ∀ x ∈ mid, ∀ ev ∈ x.events, shown m₀ ev = none)
    (h : Calls fuel mt (mid ++ post)) :
    (∀ x ∈ mid, x.after.initComplete = false ∧ x.after.unlocked = false) ∧
      ∀ x ∈ post.head?, (x.call = .init → ∃ o ρ, x.events = ⟨unlockReadOp m₀, o⟩ :: ρ) ∧
        (x.call = .probeDisc → x.events = []) := by
  induction mid generalizing mt with
  | nil =>
    refine ⟨List.forall_mem_nil _, fun x hx => ?_⟩
    cases h with
    | nil => cases hx
    | @cons _ mt' call τ r es hrun _ =>
      obtain rfl := Option.some.inj hx
      have hic : mt.initComplete = false := congrArg Prod.fst hlocked
      constructor
      · rintro rfl
        rcases run_init_iff hm hrun with ⟨hc, -⟩ | ⟨-, -, h⟩
        · rw [hic] at hc
          cases hc
        · exact h
      · rintro rfl
        have hrun := Stateful.run_get_bind_iff.mp hrun
        rw [if_pos (.inl hic)] at hrun
        exact (Stateful.run_pure_iff.mp hrun).1
  | cons x mid ih =>
    rw [List.forall_mem_cons] at hmid
    cases h with
    | @cons _ mt' call τ r es hrun hrest =>
      obtain ⟨ht, hflags⟩ := run_steps_flags hid hm hrun
      rw [replay_of_forall_none hmid.1] at hflags
      have hlocked' : mt'.flags = (false, false) := by
        rw [hflags]
        cases call with
        | init | probeDisc => exact hlocked
        | reconfirmUnlock => exact congrArg (·.1, false) hlocked
      obtain ⟨hall, hnext⟩ := ih ht hlocked' hmid.2 hrest
      exact ⟨List.forall_mem_cons.mpr ⟨Prod.mk.inj hlocked', hall⟩, hnext⟩

/-- A failed initialization leaves the driver locked exactly when none of its unlock reads passed,
a read that passed and was kept to the end being a success. -/
theorem failedInitLocks_iff {profile : DriveProfile} {platform : Platform}
    (hnew : Mt1959.new profile platform = some m₀) (fuel : ℕ) (es : List Entry)
    (h : Calls fuel m₀ es) :
    FailedInitLocks m₀ es ↔ ∀ e ∈ es, e.call = .init → UnlockKept m₀ e.events := by
  obtain ⟨-, hic, hul, -, hid⟩ := new_eq_some hnew
  have hkept : Kept m₀ m₀ := ⟨rfl, fun hu => by
    rw [show m₀.flags.2 = false from hul] at hu
    cases hu⟩
  constructor
  · rintro hlocks e he hcall ⟨ev, hev, hshown⟩
    obtain ⟨pre, post, rfl⟩ := List.append_of_mem he
    obtain ⟨mt, hmt, hcalls⟩ := h.split hid hkept
    cases hcalls with
    | @cons _ mt' call τ r _ hrun _ =>
      obtain rfl : call = .init := hcall
      rcases run_init_iff hmt.1 hrun with ⟨-, rfl, -⟩ | ⟨-, hends, -⟩
      · cases hev
      refine hends.mp ?_
      by_contra hfailed
      have hlocked := ((hlocks pre _ [] post rfl rfl (by simpa using hfailed)
        (List.forall_mem_nil _)).1 _ List.mem_cons_self).1
      have hreplay : (replay m₀ mt.flags τ).1 = true := replay_fst_iff.mpr (.inr ⟨ev, hev, hshown⟩)
      rw [← (tracks_init hmt.1 hrun).2] at hreplay
      exact nomatch hlocked.symm.trans hreplay
  · rintro hcond pre e mid post rfl hcall hfailed hmid
    obtain ⟨mt, hmt, hcalls⟩ := h.split hid hkept
    cases hcalls with
    | @cons _ mt' call τ r _ hrun hrest =>
      obtain rfl : call = .init := hcall
      rcases run_init_iff hmt.1 hrun with ⟨-, -, rfl⟩ | ⟨hstart, hends, -⟩
      · cases hfailed
      have hnone : ∀ ev ∈ τ, shown m₀ ev = none := by
        intro ev hev
        by_contra hshown
        have hok := hends.mpr (hcond _ (List.mem_append_right pre List.mem_cons_self) rfl
          ⟨ev, hev, hshown⟩)
        simp [hok] at hfailed
      obtain ⟨ht, hflags⟩ := tracks_init hmt.1 hrun
      have hlocked : mt'.flags = (false, false) := by
        rw [hflags, replay_of_forall_none hnone]
        refine Prod.ext hstart (eq_false_of_ne_true fun hu => ?_)
        exact nomatch (hmt.2 hu).symm.trans hstart
      obtain ⟨hall, hnext⟩ := hrest.locked hid ht hlocked hmid
      exact ⟨List.forall_mem_cons.mpr ⟨Prod.mk.inj hlocked, hall⟩, hnext⟩

/-- A drive that needs one upload, behind a host that grants no wait after it. -/
def stoppedDrive : Handler Scsi Bool
  | .pause _, loaded => (.error ⟨scsiStatusTransportFailure, none⟩, loaded)
  | o, loaded => uploadedDrive o loaded

/-- The driver's upload went through and its reads passed, but the silence was refused. -/
theorem exec_stoppedDrive : (exec stoppedDrive ((init 1).prog sampleDriver) false).any
    (fun x => !x.1.1.isOk && x.1.2.initComplete) = true := by decide +kernel

theorem failedInitLocks_iff_stopped : ∃ es, Calls 1 sampleDriver es ∧ es ≠ [] ∧
    (FailedInitLocks sampleDriver es ↔
      ∀ e ∈ es, e.call = .init → UnlockKept sampleDriver e.events) := by
  obtain ⟨⟨r, mt'⟩, τ, _, hrun, -⟩ := exists_run_of_any exec_stoppedDrive
  have hcalls : Calls 1 sampleDriver [⟨.init, τ, !r.isOk, mt'⟩] :=
    .cons hrun (.nil _)
  exact ⟨_, hcalls, nofun,
    failedInitLocks_iff (rfl : Mt1959.new sampleProfile .mt1959A = some sampleDriver) 1 _ hcalls⟩

/-- The initialization fails, and the driver says that it is complete. -/
theorem not_failedInitLocks_stopped : ∃ es, Calls 1 sampleDriver es ∧
    ¬ FailedInitLocks sampleDriver es := by
  obtain ⟨⟨r, mt'⟩, τ, _, hrun, hr⟩ := exists_run_of_any exec_stoppedDrive
  obtain ⟨hfailed, hcomplete⟩ := Bool.and_eq_true_iff.mp hr
  have hcalls : Calls 1 sampleDriver [⟨.init, τ, !r.isOk, mt'⟩] :=
    .cons hrun (.nil _)
  refine ⟨_, hcalls, fun h => ?_⟩
  have hlocked := (h [] _ [] [] rfl rfl hfailed (List.forall_mem_nil _)).1 _ List.mem_cons_self
  exact nomatch hlocked.1.symm.trans hcomplete

end Sequences

end FreemkvUnlock.Ld
