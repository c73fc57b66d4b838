import FreemkvUnlock.Css.Ledger

/-! # Dead buses in the bus authentication

Every command up to the disc-key read reports a dead bus and ends the run, but for the release
of a held AGID. The disc-key read, the last command of a successful run, swallows it.
-/

namespace FreemkvUnlock.Css

open Interaction Fallible

def IsDiscKeyRead (e : Event Scsi) : Prop :=
  match e.1 with
  | .execute cdb _ _ _ => cdb.headD 0 = scsiReadDiscStructure
  | _ => False

/-- A dead bus that the authentication has to report. -/
def FatalDeadBus (e : Event Scsi) : Prop := DeadBus e ∧ ¬ IsSweep e

/-- A dead bus that the authentication does report. -/
def ReportedDeadBus (e : Event Scsi) : Prop := FatalDeadBus e ∧ ¬ IsDiscKeyRead e

def TransportError (e : Error) : Prop := e.isTransportFailure = true

theorem isDiscKeyRead_of_readsDiscKey {agid : UInt8} {e : Event Scsi} (h : ReadsDiscKey agid e) :
    IsDiscKeyRead e := by
  obtain ⟨o, r⟩ := e
  cases (h : o = _)
  exact show (scsiReadDiscStructure : UInt8) = scsiReadDiscStructure from rfl

theorem not_reported_of_isCleanup (e : Event Scsi) (h : IsCleanup e) : ¬ ReportedDeadBus e :=
  fun hd => not_deadBus_of_isCleanup h hd.1.1

theorem not_reported_of_isSweep {e : Event Scsi} (h : IsSweep e) : ¬ ReportedDeadBus e :=
  fun hd => hd.1.2 h

theorem not_reported_of_isDiscKeyRead {e : Event Scsi} (h : IsDiscKeyRead e) :
    ¬ ReportedDeadBus e := fun hd => hd.2 h

/-! ## Replies -/

section Replies

variable {cdb data : List UInt8} {dir : DataDirection} {minBytes t n : ℕ}

theorem step_transport_iff {e : ScsiError} : TransportError (.step e) ↔ isDeadBus e = true := by
  unfold TransportError Error.step
  split_ifs with h
  · exact iff_of_true h h
  · exact iff_of_false nofun h

theorem cssReply_transport_iff (o : Outcome n) :
    Fails TransportError (cssReply minBytes o) ↔ FoundDead o.result := by
  unfold cssReply FoundDead
  rcases o.result with e | r
  · simpa using step_transport_iff
  · dsimp only
    split_ifs <;> simp [TransportError, Error.isTransportFailure]

theorem reported_execute_iff (hs : ¬ IsReportKey cdb 0x3F)
    (hd : cdb.headD 0 ≠ scsiReadDiscStructure) (o : Outcome data.length) :
    ReportedDeadBus ⟨.execute cdb dir data t, o⟩ ↔ FoundDead o.result :=
  ⟨fun h => h.1.1, fun h => ⟨⟨h, hs⟩, hd⟩⟩

theorem haltsOn_cssScsi (hs : ¬ IsReportKey cdb 0x3F)
    (hd : cdb.headD 0 ≠ scsiReadDiscStructure) :
    HaltsOn ReportedDeadBus NoTail (Fails TransportError) (cssScsi cdb dir data minBytes).run :=
  .askResult (fun o => (cssReply_transport_iff o).trans (reported_execute_iff hs hd o).symm) rfl

theorem toUnlockError_transport_iff {e : Error} :
    e.toUnlockError = .transport ↔ TransportError e := by
  unfold Error.toUnlockError TransportError
  split_ifs with h <;> simp [h]

theorem profileReply_transport_iff (o : Outcome 8) :
    Fails (· = .transport) (profileReply o) ↔ FoundDead o.result := by
  unfold profileReply FoundDead
  rcases o.result with e | r
  · simpa using toUnlockError_transport_iff.trans step_transport_iff
  · dsimp only
    split_ifs <;> simp

end Replies

/-! ## The run -/

section Run

variable {agid : UInt8} {τ : List (Event Scsi)}

theorem not_sweep_keyCdb (h : agid < 4) {opcode format : UInt8} {len : UInt16}
    (h3F : format &&& 0x3F ≠ 0x3F) : ¬ IsReportKey (keyCdb opcode agid format len).toList 0x3F :=
  fun hr => h3F (((agidBits h format).2).symm.trans hr.2)

theorem haltsOn_keyCommand (h : agid < 4) {opcode format : UInt8} {len : UInt16}
    {dir : DataDirection} {data : List UInt8} {minBytes : ℕ} (h3F : format &&& 0x3F ≠ 0x3F)
    (hop : opcode ≠ scsiReadDiscStructure) :
    HaltsOn ReportedDeadBus NoTail (Fails TransportError)
      (cssScsi (keyCdb opcode agid format len).toList dir data minBytes).run :=
  haltsOn_cssScsi (not_sweep_keyCdb h h3F) hop

theorem haltsOn_authenticateWithAgid (h : agid < 4) :
    HaltsOn ReportedDeadBus NoTail (Fails TransportError) (authenticateWithAgid agid).run := by
  refine .seq (.lift (.ask fun _ hd => hd.1.1)) fun hostChallenge => ?_
  refine .seq (haltsOn_keyCommand h (by decide) (by decide)) fun _ => ?_
  refine .seq (haltsOn_keyCommand h (by decide) (by decide)) fun dkBuf => ?_
  refine .seq (.okOr nofun) fun variant => ?_
  refine .seq (haltsOn_keyCommand h (by decide) (by decide)) fun dcBuf => ?_
  refine .seq (haltsOn_keyCommand h (by decide) (by decide)) fun _ => ?_
  exact .ret _

theorem haltsOn_allocateAgid :
    HaltsOn ReportedDeadBus NoTail (Fails TransportError) allocateAgid.run :=
  .seq (haltsOn_keyCommand (by decide) (by decide) (by decide)) fun _ => .ret _

theorem haltsOn_establishAuthenticatedSession :
    HaltsOn ReportedDeadBus ReleaseTail (Fails TransportError)
      establishAuthenticatedSession.run := by
  refine .seq (.lift (issues_sweep.mono fun _ => not_reported_of_isSweep)) fun _ => ?_
  refine .seq_of_run (haltsOn_allocateAgid.mono releaseTail_of_noTail) fun _ agid h => ?_
  obtain ⟨_, -, -, hok, -⟩ := run_allocateAgid h
  refine .seq (haltsOn_holding not_reported_of_isCleanup
    (haltsOn_authenticateWithAgid (hok agid rfl).2)) fun ⟨_, guard⟩ => ?_
  exact .ret _

theorem haltsOn_unlockCssReads :
    HaltsOn ReportedDeadBus ReleaseTail (Fails TransportError) unlockCssReads.run := by
  refine .seq haltsOn_establishAuthenticatedSession fun agid => .lift ?_
  refine .bind (fun τ r h => ?_) fun _ => .pure _
  obtain ⟨disc, rfl, hdisc⟩ := run_readDiscKey h
  simpa using not_reported_of_isDiscKeyRead (isDiscKeyRead_of_readsDiscKey hdisc)

theorem fallthrough_transport_iff {r : Except UnlockError Unlocked} :
    Fails (· = .transport) (fallthrough r) ↔ Fails (· = .transport) r := by
  rcases r with (_ | _ | _ | _ | _) | u <;> simp [fallthrough]

theorem haltsOn_unlock :
    HaltsOn ReportedDeadBus ReleaseTail (Fails (· = .transport)) unlock.run := by
  refine .seq (.askResult (fun o => ?_) (Or.inl rfl)) fun dvd => ?_
  · exact (profileReply_transport_iff o).trans (reported_execute_iff (by decide) (by decide) o).symm
  · cases dvd with
    | false => exact .ret _
    | true =>
      have hread : HaltsOn ReportedDeadBus ReleaseTail (Fails (· = .transport))
          (unlockCssReads.mapErr Error.toUnlockError).run :=
        haltsOn_unlockCssReads.mapErr fun e => toUnlockError_transport_iff
      refine hread.map fun r => ?_
      rw [fallthrough_transport_iff]
      rcases r with e | u <;> exact Iff.rfl

/-- Every dead bus the run meets is its error, after which only a held AGID is released. -/
def ReportsDeadBus (τ : List (Event Scsi)) (r : Except UnlockError (Option Unlocked)) : Prop :=
  ∀ pre e post, τ = pre ++ e :: post → FatalDeadBus e → r = .error .transport ∧
    (post = [] ∨ ∃ agid rel before alloc body, post = [rel] ∧ Releases agid rel ∧
      pre ++ [e] = before ++ alloc :: body ∧ grantedAgid alloc = some agid ∧
      ∀ e' ∈ body, InSession agid e')

/-- A clean-up command at the end of a run releases the AGID of its session. -/
theorem release_of_run {r : Except UnlockError (Option Unlocked)} (h : Run unlock.run τ r)
    {pre : List (Event Scsi)} {rel : Event Scsi} (hτ : τ = pre ++ [rel]) (hrel : IsCleanup rel) :
    ∃ agid before alloc body, Releases agid rel ∧ pre = before ++ alloc :: body ∧
      grantedAgid alloc = some agid ∧ ∀ e ∈ body, InSession agid e := by
  rcases unlock_sessions h with hnone | ⟨front, alloc, rest, agid, rfl, -, hclean, hgrant, hend⟩
  · exact absurd hrel (hnone rel (by simp [hτ])).2
  rcases hend with ⟨-, body, rel', rfl, hbody, hrel'⟩ | ⟨-, body, disc, rfl, -, -, hdisc⟩
  · obtain ⟨hpre, hlast⟩ := List.append_inj' (by simpa using hτ :
      (front ++ alloc :: body) ++ [rel'] = pre ++ [rel]) rfl
    obtain rfl := List.singleton_inj.mp hlast
    exact ⟨agid, front, alloc, body, hrel', hpre.symm, hgrant, hbody⟩
  · obtain ⟨-, hlast⟩ := List.append_inj' (by simpa using hτ :
      (front ++ alloc :: body) ++ [disc] = pre ++ [rel]) rfl
    obtain rfl := List.singleton_inj.mp hlast
    exact absurd hrel (not_isCleanup_of_inSession hdisc)

theorem not_isSweep_of_isDiscKeyRead {e : Event Scsi} (h : IsDiscKeyRead e) : ¬ IsSweep e := by
  obtain ⟨o, r⟩ := e
  cases o with
  | execute cdb dir data t =>
    have hd : cdb.headD 0 = scsiReadDiscStructure := h
    exact fun hs => absurd (hd.symm.trans hs.1) (by decide)
  | _ => exact h.elim

theorem not_isCleanup_of_isDiscKeyRead {e : Event Scsi} (h : IsDiscKeyRead e) : ¬ IsCleanup e := by
  obtain ⟨o, r⟩ := e
  cases o <;> first | exact id | exact h.elim

/-- A dead bus is reported in every position but that of the disc-key read. -/
theorem unlock_reportsDeadBus_iff {r : Except UnlockError (Option Unlocked)}
    (h : Run unlock.run τ r) :
    ReportsDeadBus τ r ↔ ∀ e ∈ τ, IsDiscKeyRead e → ¬ DeadBus e := by
  constructor
  · intro hrep e he hdisc hdead
    obtain ⟨pre, post, rfl⟩ := List.append_of_mem he
    have hne : ¬ ReportedDeadBus e := fun hr => hr.2 hdisc
    obtain ⟨rfl, htail⟩ := hrep pre e post rfl ⟨hdead, not_isSweep_of_isDiscKeyRead hdisc⟩
    rcases haltsOn_unlock h with ⟨-, pre', e', post', hτ, hpre', he', htail'⟩ | ⟨hR, -⟩
    · rcases split_cases hτ with ⟨-, rfl, -⟩ | ⟨mid, rfl, rfl⟩ | ⟨mid, rfl, rfl⟩
      · exact hne he'
      · rcases htail' with hnil | ⟨c, hc, hclean⟩
        · simp at hnil
        · have hmem : e ∈ [c] := hc ▸ by simp
          rw [List.mem_singleton.mp hmem] at hdisc
          exact not_isCleanup_of_isDiscKeyRead hdisc hclean
      · -- the reported event would have to be the release after the disc-key read
        rcases htail with hnil | ⟨agid, rel, -, -, -, hrel, hreleases, -⟩
        · simp at hnil
        · have hmem : e' ∈ [rel] := hrel ▸ by simp
          rw [List.mem_singleton.mp hmem] at he'
          exact not_reported_of_isCleanup rel (isCleanup_of_releases hreleases) he'
    · exact hR rfl
  · intro hdisc pre e post hτ hfatal
    have hrep : ReportedDeadBus e := ⟨hfatal, fun hd => hdisc e (by simp [hτ]) hd hfatal.1⟩
    refine ⟨?_, ?_⟩
    · have hR := (haltsOn_unlock.result_iff h).mpr ⟨e, by simp [hτ], hrep⟩
      rcases r with err | u
      · exact congrArg Except.error hR
      · exact hR.elim
    · rcases haltsOn_unlock.tail (not_fatal_of_releaseTail not_reported_of_isCleanup) h hτ hrep with
        rfl | ⟨rel, rfl, hrel⟩
      · exact .inl rfl
      · obtain ⟨agid, before, alloc, body, hreleases, hpre, hgrant, hbody⟩ :=
          release_of_run h (show τ = (pre ++ [e]) ++ [rel] by simp [hτ]) hrel
        exact .inr ⟨agid, rel, before, alloc, body, rfl, hreleases, hpre, hgrant, hbody⟩

end Run

/-! ## Two drives -/

/-- The reply of an honest drive of variant zero to a host whose challenge is all zero. -/
def honestReply (cdb : List UInt8) (n : ℕ) : Vector UInt8 n :=
  let key1 := (cryptKey 0 0 (Vector.replicate 10 0)).toList.reverse
  let bytes := if cdb.headD 0 = scsiGetConfiguration then [0, 0, 0, 0, 0, 0, 0x00, 0x10]
    else if cdbFormat cdb = 0x02 then [0, 0, 0, 0] ++ key1 else []
  Vector.ofFn fun i => bytes.getD i 0

/-- A drive that authenticates and is gone when the commands with opcode `gone` come. -/
def departingDvd (gone : UInt8) : Handler Scsi Unit
  | .execute cdb _ data _, s =>
    (⟨if cdb.headD 0 = gone then deadResult else .ok ⟨0, data.length, Vector.replicate 32 0⟩,
      honestReply cdb data.length⟩, s)
  | o, s => refusingDvd o s

theorem isDiscKeyRead_of_goneAt {e : Event Scsi} (h : goneAt scsiReadDiscStructure e = true) :
    IsDiscKeyRead e := by
  obtain ⟨o, r⟩ := e
  cases o with
  | execute cdb dir data t =>
    simp only [goneAt, Bool.and_eq_true, beq_iff_eq] at h
    exact h.1
  | _ => cases h

def discKeyOp : Event Scsi → Bool
  | ⟨.execute cdb _ _ _, _⟩ => cdb.headD 0 == scsiReadDiscStructure
  | _ => false

theorem discKeyOp_of_isDiscKeyRead {e : Event Scsi} (h : IsDiscKeyRead e) : discKeyOp e = true := by
  obtain ⟨o, r⟩ := e
  cases o with
  | execute cdb dir data t => exact beq_iff_eq.mpr h
  | _ => exact h.elim

/-- A drive that is gone when the host sends its challenge. -/
theorem unlock_reportsDeadBus_sendKey :
    ∃ τ r, Run unlock.run τ r ∧ ReportsDeadBus τ r ∧ ∃ e ∈ τ, DeadBus e := by
  have hex : (exec (departingDvd scsiSendKey) unlock.run ()).any
      (fun x => x.2.1.any (goneAt scsiSendKey) && !x.2.1.any discKeyOp) = true := by decide +kernel
  obtain ⟨r, τ, _, hrun, hany⟩ := exists_run_of_any hex
  simp only [Bool.and_eq_true, Bool.not_eq_true', List.any_eq_true, List.any_eq_false] at hany
  obtain ⟨⟨e, hmem, hgone⟩, hnone⟩ := hany
  exact ⟨τ, r, hrun, (unlock_reportsDeadBus_iff hrun).mpr fun e' he' hd =>
    absurd (discKeyOp_of_isDiscKeyRead hd) (hnone e' he'), e, hmem, deadBus_of_goneAt hgone⟩

/-- A drive that is gone when the disc key is read: the unlock is reported all the same. -/
theorem unlock_not_reportsDeadBus_discKey :
    ∃ τ, Run unlock.run τ (.ok (some dvdUnlocked)) ∧ (∃ e ∈ τ, FatalDeadBus e) ∧
      ¬ ReportsDeadBus τ (.ok (some dvdUnlocked)) := by
  have hex : (exec (departingDvd scsiReadDiscStructure) unlock.run ()).any
      (fun x => x.1.toOption == some (some dvdUnlocked) &&
        x.2.1.any (goneAt scsiReadDiscStructure)) = true := by decide +kernel
  obtain ⟨r, τ, _, hrun, hany⟩ := exists_run_of_any hex
  simp only [Bool.and_eq_true, beq_iff_eq, List.any_eq_true] at hany
  obtain ⟨hr, e, hmem, hgone⟩ := hany
  have hok : r = .ok (some dvdUnlocked) := by
    rcases r with err | u
    · cases hr
    · exact congrArg Except.ok (Option.some.inj hr)
  have hfatal : FatalDeadBus e := ⟨deadBus_of_goneAt hgone,
    not_isSweep_of_isDiscKeyRead (isDiscKeyRead_of_goneAt hgone)⟩
  obtain ⟨pre, post, rfl⟩ := List.append_of_mem hmem
  refine ⟨_, hok ▸ hrun, ⟨e, hmem, hfatal⟩, fun hrep => ?_⟩
  cases (hrep pre e post rfl hfatal).1

end FreemkvUnlock.Css
