import FreemkvUnlock.Aacs.Transcript
import FreemkvUnlock.Agid
import FreemkvUnlock.Interaction.Guarded
import FreemkvUnlock.Interaction.Trace

/-! # The AGID ledger

Every AGID the drive grants is released exactly once, after the last command of its session
and before anything else is asked of the drive, and every command of the session carries it.
While no AGID is held the drive is asked for one or told to drop old ones, and nothing more.
-/

namespace FreemkvUnlock.Aacs

open Interaction

/-! ## Reading the trace -/

def Releases (agid : UInt8) (e : Event Scsi) : Prop :=
  e.1 = .executeCleanup (cdbReportKey agid 0x3F 2).toList .fromDevice [0, 0] 5000

/-- The bracket of AGID grants and releases. -/
def agidSpans : Spans (Event Scsi) UInt8 where
  opens := grantedAgid
  isClose := IsCleanup
  closes := Releases
  inside := InSession
  opens_of_inside := grantedAgid_of_inSession
  not_close_of_inside := not_isCleanup_of_inSession
  opens_of_closes := by
    rintro agid ⟨o, r⟩ (h : o = _)
    subst h
    rfl

theorem isCleanup_of_releases {agid : UInt8} {e : Event Scsi} (h : Releases agid e) :
    IsCleanup e := by
  unfold IsCleanup
  rw [show e.1 = _ from h]
  trivial

theorem outside_of_isSessionCommand (e : Event Scsi) (h : IsSessionCommand e) :
    agidSpans.Outside e :=
  ⟨grantedAgid_of_isSessionCommand h, not_isCleanup_of_isSessionCommand h⟩

/-- What may happen while no AGID is held. -/
def Idle (e : Event Scsi) : Prop := agidSpans.Outside e ∧ ¬ IsSessionCommand e

theorem idle_iff {e : Event Scsi} :
    Idle e ↔ (grantedAgid e = none ∧ ¬ IsCleanup e) ∧ ¬ IsSessionCommand e := Iff.rfl

/-- Traces whose AGIDs are released in turn and whose session commands stand inside sessions. -/
abbrev Balanced : List (Event Scsi) → Prop := Guarded agidSpans IsSessionCommand

/-! ## Command bytes -/

section Commands

variable {agid : UInt8} {dir : DataDirection} {data : List UInt8} {t : ℕ}

theorem inSession_cdbKey (h : agid < 4) {opcode format : UInt8} {len : UInt16}
    (hop : opcode ∈ [scsiReportKey, scsiSendKey]) (h0 : format &&& 0x3F ≠ 0x00)
    (h3F : format &&& 0x3F ≠ 0x3F) (o) :
    InSession agid ⟨.execute (cdbKey opcode agid format len).toList dir data t, o⟩ := by
  obtain ⟨hagid, hformat⟩ := agidBits h format
  have hf : cdbFormat (cdbKey opcode agid format len).toList = format &&& 0x3F := hformat
  refine ⟨?_, hagid, fun hr => h0 ?_, fun hr => h3F ?_⟩
  · have hm : opcode ∈ [scsiReportKey, scsiSendKey, scsiReadDiscStructure] := by
      simp only [List.mem_cons] at hop ⊢; tauto
    exact hm
  · rw [← hf]; exact hr.2
  · rw [← hf]; exact hr.2

theorem inSession_cdbReportDiscStructure (h : agid < 4) {format : UInt8} {len : UInt16} (o) :
    InSession agid ⟨.execute (cdbReportDiscStructure agid format len).toList dir data t, o⟩ := by
  have hagid := (agidBits h 0).1
  refine ⟨by simp [cdbReportDiscStructure], ?_, fun hr => ?_, fun hr => ?_⟩
  · simpa [cdbAgid, cdbReportDiscStructure] using hagid
  · simp [IsReportKey, cdbReportDiscStructure, scsiReadDiscStructure, scsiReportKey] at hr
  · simp [IsReportKey, cdbReportDiscStructure, scsiReadDiscStructure, scsiReportKey] at hr

end Commands

/-! ## What each routine issues -/

section Issues

variable {c : Crypto} {fuel : ℕ} {P : Event Scsi → Prop}

theorem issues_scsiRead {cdb : List UInt8} {len : ℕ}
    (h : ∀ o, P ⟨.execute cdb .fromDevice (List.replicate len 0) 5000, o⟩) :
    Issues P (scsiRead cdb len).run :=
  .seq (.lift (.ask h)) fun _ => .result _

theorem issues_scsiWrite {cdb data : List UInt8}
    (h : ∀ o, P ⟨.execute cdb .toDevice data 5000, o⟩) : Issues P (scsiWrite cdb data).run :=
  .seq (.lift (.ask h)) fun _ => .result _

theorem issues_generateKeyPair (E : EcDomain) (h : ∀ n r, P ⟨.fillBytes n, r⟩) :
    Issues P (E.generateKeyPair fuel) :=
  .retry (.bind (.ask fun r => h _ r) fun _ => .pure _) fuel

theorem issues_sign (E : EcDomain) {hash : List UInt8 → List UInt8} {privKey data : List UInt8}
    (h : ∀ n r, P ⟨.fillBytes n, r⟩) : Issues P (E.sign hash fuel privKey data) :=
  .retry (.bind (.ask fun r => h _ r) fun _ => .pure _) fuel

variable {agid : UInt8} {la : Anchors}

theorem issues_aacsAuthenticateWithAgid (h : agid < 4) (k : Vector UInt8 20)
    (cert : List UInt8) :
    Issues (InSession agid) (aacsAuthenticateWithAgid c fuel agid k cert la).run := by
  refine .seq (.lift (.ask fun r => inSession_fillBytes _ r)) fun nonce => ?_
  refine .seq (.lift (issues_generateKeyPair _ inSession_fillBytes)) fun ⟨key, x, y⟩ => ?_
  refine .seq (.mapErr _ (.mapErr _ (issues_scsiWrite
    (inSession_cdbKey h (by decide) (by decide) (by decide))))) fun _ => ?_
  refine .seq (.mapErr _ (.mapErr _ (issues_scsiRead
    (inSession_cdbKey h (by decide) (by decide) (by decide))))) fun certReply => ?_
  refine .seq (.result _) fun _ => ?_
  refine .seq (.mapErr _ (.mapErr _ (issues_scsiRead
    (inSession_cdbKey h (by decide) (by decide) (by decide))))) fun keyReply => ?_
  refine .seq (.ensure _ _) fun _ => ?_
  refine .seq (.lift (issues_sign _ inSession_fillBytes)) fun ⟨r, s⟩ => ?_
  refine .seq (.ensure _ _) fun _ => ?_
  refine .seq (.mapErr _ (.mapErr _ (issues_scsiWrite
    (inSession_cdbKey h (by decide) (by decide) (by decide))))) fun _ => ?_
  exact .seq (.result _) fun _ => .ret _

theorem issues_aacs2AuthenticateP256WithAgid (h : agid < 4) (k : Vector UInt8 32)
    (cert : List UInt8) :
    Issues (InSession agid) (aacs2AuthenticateP256WithAgid c fuel agid k cert la).run := by
  refine .seq (.lift (.ask fun r => inSession_fillBytes _ r)) fun nonce => ?_
  refine .seq (.lift (issues_generateKeyPair _ inSession_fillBytes)) fun ⟨key, x, y⟩ => ?_
  refine .seq (.mapErr _ (issues_scsiWrite
    (inSession_cdbKey h (by decide) (by decide) (by decide)))) fun _ => ?_
  refine .seq (.mapErr _ (issues_scsiRead
    (inSession_cdbKey h (by decide) (by decide) (by decide)))) fun certReply => ?_
  refine .seq (.result _) fun _ => ?_
  refine .seq (.mapErr _ (issues_scsiRead
    (inSession_cdbKey h (by decide) (by decide) (by decide)))) fun keyReply => ?_
  refine .seq (.ensure _ _) fun _ => ?_
  refine .seq (.lift (issues_sign _ inSession_fillBytes)) fun ⟨r, s⟩ => ?_
  refine .seq (.ensure _ _) fun _ => ?_
  refine .seq (.mapErr _ (issues_scsiWrite
    (inSession_cdbKey h (by decide) (by decide) (by decide)))) fun _ => ?_
  exact .seq (.result _) fun _ => .ret _

theorem issues_readVolumeId {auth : AacsAuth} (h : auth.agid < 4) :
    Issues (InSession auth.agid) (readVolumeId c auth).run :=
  .seq (.mapErr _ (issues_scsiRead (inSession_cdbReportDiscStructure h))) fun _ =>
    .seq (.ensure _ _) fun _ => .ret _

theorem issues_readDataKeys {auth : AacsAuth} (ha : auth.agid = agid) (h : agid < 4) :
    Issues (InSession agid) (readDataKeys c auth).run := by
  subst ha
  exact .seq (.mapErr _ (issues_scsiRead (inSession_cdbReportDiscStructure h))) fun _ =>
    .seq (.ensure _ _) fun _ => .ret _

theorem issues_finishReads {auth : AacsAuth} (h : auth.agid < 4) :
    Issues (InSession auth.agid) (finishReads c auth).run := by
  refine .seq_of_run (.mapErr _ (issues_readVolumeId h)) fun _ ⟨vid, auth'⟩ hr => ?_
  obtain ⟨e, -, -, rfl⟩ := run_readVolumeId_ok (run_mapErr_ok_iff.mp hr)
  dsimp only
  split_ifs
  · refine .seq (.lift (issues_readDataKeys rfl h)) fun o => ?_
    rcases o with e | ⟨⟨rdk, wdk⟩, auth'⟩
    · dsimp only
      split_ifs
      · exact .throw _
      · exact .ret _
    · exact .ret _
  · exact .ret _

theorem issues_invalidateAgids (agids : List UInt8) (h : ∀ agid ∈ agids, agid < 4) :
    Issues Idle (invalidateAgids agids) := by
  induction agids with
  | nil => exact .pure _
  | cons agid agids ih =>
    rw [List.forall_mem_cons] at h
    have hf : ¬ IsReportKey (cdbReportKey agid 0x3F 2).toList 0x00 := fun hr => by
      have h0 := (agidBits h.1 0x3F).2.symm.trans hr.2
      exact absurd h0 (by decide)
    have hsweep : IsReportKey (cdbReportKey agid 0x3F 2).toList 0x3F := ⟨rfl, (agidBits h.1 0x3F).2⟩
    exact .bind (issues_scsiRead fun o =>
      ⟨⟨grantedAgid_execute hf o, id⟩, fun hs => hs.2.2 hsweep⟩) fun _ => ih h.2

end Issues

/-! ## Sessions -/

variable {c : Crypto} {fuel : ℕ} {τ : List (Event Scsi)} {la : Anchors}

/-- A REPORT KEY of format 0 grants an AGID exactly when its read succeeds. -/
theorem grantedAgid_allocation {cdb data : List UInt8} {dir : DataDirection} {t : ℕ}
    (h : IsReportKey cdb 0x00) (o : Outcome data.length) :
    grantedAgid ⟨.execute cdb dir data t, o⟩ =
      (readReply cdb o).toOption.map fun bytes : List UInt8 => (bytes.getD 7 0 >>> 6 : UInt8) := by
  rcases hr : readReply cdb o with e | bytes
  · simp only [grantedAgid, Except.toOption, Option.map_none]
    split
    · rename_i r ho
      refine if_neg fun hc => ?_
      rw [readReply_ok_iff.mpr ⟨r, ho, hc.2.1, hc.2.2, rfl⟩] at hr
      cases hr
    · rfl
  · obtain ⟨r, ho, hs, hl, rfl⟩ := readReply_ok_iff.mp hr
    simp only [grantedAgid, ho, Except.toOption, Option.map_some]
    rw [if_pos ⟨h, hs, hl⟩]

theorem run_allocateAgid {r : Except Error UInt8} (h : Run allocateAgid.run τ r) :
    ∃ e, τ = [e] ∧ (∀ agid, r = .ok agid → grantedAgid e = some agid ∧ agid < 4) ∧
      ∀ err, r = .error err → Idle e := by
  have hk : IsReportKey (cdbReportKey 0 0x00 8).toList 0x00 := by decide
  rcases run_fallible_bind_iff.mp h with ⟨err, rfl, hs⟩ | ⟨τ₁, bytes, τ₂, rfl, hs, hp⟩
  · obtain ⟨o', hs, ho'⟩ := run_mapErr_iff.mp hs
    obtain ⟨o, rfl, rfl⟩ := run_scsiRead_iff.mp hs
    refine ⟨_, rfl, nofun, fun _ _ => idle_iff.mpr ⟨⟨?_, id⟩, fun hs => hs.2.1 hk⟩⟩
    rw [grantedAgid_allocation hk o]
    rcases hr : readReply (cdbReportKey 0 0x00 8).toList o with e | bytes
    · rfl
    · rw [hr] at ho'; cases ho'
  · obtain ⟨o, rfl, hr⟩ := run_scsiRead_iff.mp (run_step_ok hs)
    obtain ⟨rfl, rfl⟩ := run_fallible_pure_iff.mp hp
    refine ⟨_, rfl, fun agid ha => ?_, nofun⟩
    obtain rfl := Except.ok.inj ha
    obtain ⟨hb, hlt⟩ := agid_of_byte (bytes.getD 7 0)
    rw [grantedAgid_allocation hk o, ← hr, hb]
    exact ⟨rfl, hlt⟩

/-- A trace that ends inside a session: an AGID granted and not yet released. -/
def OpenSession (agid : UInt8) (τ : List (Event Scsi)) : Prop :=
  agid < 4 ∧ ∃ pre o body, τ = pre ++ o :: body ∧ (∀ e ∈ pre, Idle e) ∧
    grantedAgid o = some agid ∧ ∀ e ∈ body, InSession agid e

theorem OpenSession.close {agid : UInt8} {body : List (Event Scsi)} {e : Event Scsi}
    (h : OpenSession agid τ) (hb : ∀ e ∈ body, InSession agid e) (he : Releases agid e) :
    Balanced (τ ++ (body ++ [e])) := by
  obtain ⟨-, pre, o, body', rfl, hpre, ho, hb'⟩ := h
  have hspan : Balanced (o :: ((body' ++ body) ++ e :: [])) :=
    .span ho (by simpa [or_imp, forall_and] using ⟨hb', hb⟩) he .nil
  simpa using (Guarded.of_outside hpre).append hspan

theorem run_drop {agid : UInt8} {u : Unit} (h : Run (agidGuard agid).drop τ u) :
    ∃ e, τ = [e] ∧ Releases agid e := by
  obtain ⟨τ₁, o, τ₂, rfl, h₁, h₂⟩ := run_bind_iff.mp h
  obtain ⟨rfl, -⟩ := run_pure_iff.mp h₂
  refine ⟨_, by simpa using run_ask_iff.mp h₁, ?_⟩
  unfold Releases
  simp only [releaseLen_agidGuard]
  rfl

/-- A successful authentication under a granted AGID that is still held. -/
def HeldRun {ε : Type} (authenticate : UInt8 → Fallible Scsi ε AacsAuth) (auth : AacsAuth)
    (guard : AgidGuard) (τ : List (Event Scsi)) : Prop :=
  ∃ agid pre alloc body, agid < 4 ∧ τ = pre ++ alloc :: body ∧
    (∀ e ∈ pre, Idle e) ∧ grantedAgid alloc = some agid ∧
    Run (authenticate agid).run body (.ok auth) ∧ guard = agidGuard agid

/-- Authentication holds its AGID on success and leaves the ledger balanced on failure. -/
theorem run_withAllocatedAgid {ε : Type} {f : Error → ε}
    {authenticate : UInt8 → Fallible Scsi ε AacsAuth}
    (hs : ∀ agid < 4, Issues (InSession agid) (authenticate agid).run)
    {r : Except ε (AacsAuth × AgidGuard)} (h : Run (withAllocatedAgid f authenticate).run τ r) :
    (∀ auth guard, r = .ok (auth, guard) → HeldRun authenticate auth guard τ) ∧
    ∀ e, r = .error e → Balanced τ := by
  have hsweep : Issues Idle (invalidateAgids [0, 1, 2, 3]) :=
    issues_invalidateAgids _ (by simp)
  rcases run_fallible_bind_iff.mp h with ⟨e, rfl, h₁⟩ | ⟨τ₁, _, τ₂, rfl, h₁, k₁⟩
  · exact ⟨nofun, fun _ _ => .of_outside ((Issues.lift hsweep) h₁)⟩
  have hpre := hsweep (run_lift_ok_iff.mp h₁)
  rcases run_fallible_bind_iff.mp k₁ with ⟨e, rfl, h₂⟩ | ⟨τ₃, agid, τ₄, rfl, h₂, k₂⟩
  · obtain ⟨o, h₂, ho⟩ := run_mapErr_iff.mp h₂
    obtain ⟨e', rfl, -, hout⟩ := run_allocateAgid h₂
    refine ⟨nofun, fun _ _ => (Guarded.of_outside hpre).append ?_⟩
    rcases o with err | agid
    · exact .of_outside (List.forall_mem_singleton.mpr (hout err rfl))
    · cases ho
  obtain ⟨alloc, rfl, hok, -⟩ := run_allocateAgid (run_mapErr_ok_iff.mp h₂)
  obtain ⟨hgrant, hlt⟩ := hok agid rfl
  obtain ⟨τ₅, o, τ₆, rfl, h₃, k₃⟩ := run_bind_iff.mp k₂
  have hbody := hs agid hlt h₃
  rcases o with err | auth
  · -- the guard is dropped with the error
    obtain ⟨τ₇, _, τ₈, rfl, h₄, k₄⟩ := run_bind_iff.mp k₃
    obtain ⟨rfl, rfl⟩ := run_pure_iff.mp k₄
    obtain ⟨e', rfl, hrel⟩ := run_drop h₄
    refine ⟨nofun, fun _ _ => (Guarded.of_outside hpre).append ?_⟩
    simpa using Guarded.span hgrant hbody hrel .nil
  · obtain ⟨rfl, rfl⟩ := run_pure_iff.mp k₃
    refine ⟨fun auth' guard hr => ?_, nofun⟩
    obtain ⟨rfl, rfl⟩ := Prod.mk.inj (Except.ok.inj hr)
    exact ⟨agid, τ₁, alloc, τ₅, hlt, by simp, hpre, hgrant, h₃, rfl⟩

theorem run_finishAuth {auth : AacsAuth} {r : Except FinishErr CertHandshake}
    {τ' : List (Event Scsi)} (hopen : OpenSession auth.agid τ)
    (h : Run (finishAuth c (agidGuard auth.agid) auth).run τ' r) :
    Balanced (τ ++ τ') := by
  obtain ⟨τ₁, o, τ₂, rfl, h₁, k₁⟩ := run_bind_iff.mp h
  obtain ⟨τ₃, _, τ₄, rfl, h₂, k₂⟩ := run_bind_iff.mp k₁
  obtain ⟨rfl, -⟩ := run_pure_iff.mp k₂
  obtain ⟨e, rfl, hrel⟩ := run_drop h₂
  simpa using hopen.close (issues_finishReads hopen.1 h₁) hrel

theorem run_aacs1Ake {k : Vector UInt8 20} {cert : List UInt8}
    {r : Except V1Fail (AacsAuth × AgidGuard)} (h : Run (aacs1Ake c fuel k cert la).run τ r) :
    (∀ auth guard, r = .ok (auth, guard) →
      HeldRun (fun agid => aacsAuthenticateWithAgid c fuel agid k cert la) auth guard τ) ∧
    ∀ e, r = .error e → Balanced τ := by
  rcases run_fallible_bind_iff.mp h with ⟨e, rfl, h₁⟩ | ⟨τ₁, _, τ₂, rfl, h₁, k₁⟩
  · obtain ⟨rfl, -⟩ := run_ensure_iff.mp h₁
    exact ⟨nofun, fun _ _ => .nil⟩
  · obtain ⟨rfl, -⟩ := run_ensure_iff.mp h₁
    exact run_withAllocatedAgid (fun agid hlt => issues_aacsAuthenticateWithAgid hlt k cert) k₁

theorem run_aacs2AuthenticateP256WithAnchor {k : Vector UInt8 32} {cert : List UInt8}
    {r : Except Error (AacsAuth × AgidGuard)}
    (h : Run (aacs2AuthenticateP256WithAnchor c fuel k cert la).run τ r) :
    (∀ auth guard, r = .ok (auth, guard) →
      HeldRun (fun agid => aacs2AuthenticateP256WithAgid c fuel agid k cert la) auth guard τ) ∧
    ∀ e, r = .error e → Balanced τ := by
  rcases run_fallible_bind_iff.mp h with ⟨e, rfl, h₁⟩ | ⟨τ₁, _, τ₂, rfl, h₁, k₁⟩
  · obtain ⟨rfl, -⟩ := run_ensure_iff.mp h₁
    exact ⟨nofun, fun _ _ => .nil⟩
  · obtain ⟨rfl, -⟩ := run_ensure_iff.mp h₁
    exact run_withAllocatedAgid
      (fun agid hlt => issues_aacs2AuthenticateP256WithAgid hlt k cert) k₁

theorem HeldRun.openV1 {k : Vector UInt8 20} {cert : List UInt8} {auth : AacsAuth}
    {guard : AgidGuard}
    (h : HeldRun (fun agid => aacsAuthenticateWithAgid c fuel agid k cert la) auth guard τ) :
    guard = agidGuard auth.agid ∧ OpenSession auth.agid τ := by
  obtain ⟨agid, pre, alloc, body, hlt, rfl, hpre, hgrant, hrun, rfl⟩ := h
  have hbody := issues_aacsAuthenticateWithAgid hlt k cert hrun
  obtain ⟨t, -, rfl⟩ := V1Transcript.of_run hrun
  exact ⟨rfl, hlt, pre, alloc, body, rfl, hpre, hgrant, hbody⟩

theorem HeldRun.openP256 {k : Vector UInt8 32} {cert : List UInt8} {auth : AacsAuth}
    {guard : AgidGuard}
    (h : HeldRun (fun agid => aacs2AuthenticateP256WithAgid c fuel agid k cert la) auth guard τ) :
    guard = agidGuard auth.agid ∧ OpenSession auth.agid τ := by
  obtain ⟨agid, pre, alloc, body, hlt, rfl, hpre, hgrant, hrun, rfl⟩ := h
  have hbody := issues_aacs2AuthenticateP256WithAgid hlt k cert hrun
  obtain ⟨t, -, rfl⟩ := P256Transcript.of_run hrun
  exact ⟨rfl, hlt, pre, alloc, body, rfl, hpre, hgrant, hbody⟩

/-! ## The whole handshake -/

theorem balanced_attemptP256 {hc : HostCert} {dead : Bool} {o : CertOutcome}
    (h : Run (attemptP256 c fuel hc la dead) τ o) : Balanced τ := by
  unfold attemptP256 at h
  split at h
  · obtain ⟨τ₁, r, τ₂, rfl, h₁, k₁⟩ := run_bind_iff.mp h
    obtain ⟨hok, herr⟩ := run_aacs2AuthenticateP256WithAnchor h₁
    rcases r with e | ⟨auth, guard⟩
    · rw [(run_pure_iff.mp k₁).1, List.append_nil]
      exact herr e rfl
    · obtain ⟨rfl, hopen⟩ := (hok auth guard rfl).openP256
      obtain ⟨r, k₁, -⟩ := run_map_iff.mp k₁
      exact run_finishAuth hopen k₁
  · rw [(run_pure_iff.mp h).1]
    exact .nil

theorem balanced_attemptV1 {hc : HostCert} {hasV2 : Bool} {o : V1Step}
    (h : Run (attemptV1 c fuel hc la hasV2) τ o) : Balanced τ := by
  obtain ⟨τ₁, r, τ₂, rfl, h₁, k₁⟩ := run_bind_iff.mp h
  obtain ⟨hok, herr⟩ := run_aacs1Ake h₁
  rcases r with e | ⟨auth, guard⟩
  · rw [(run_pure_iff.mp k₁).1, List.append_nil]
    exact herr e rfl
  · obtain ⟨rfl, hopen⟩ := (hok auth guard rfl).openV1
    obtain ⟨r, k₁, -⟩ := run_map_iff.mp k₁
    exact run_finishAuth hopen k₁

theorem balanced_attemptOneCert {hc : HostCert} {tryV1 hasV2 : Bool} {o : CertOutcome}
    (h : Run (attemptOneCert c fuel hc la tryV1 hasV2) τ o) : Balanced τ := by
  unfold attemptOneCert at h
  split_ifs at h
  · obtain ⟨τ₁, r, τ₂, rfl, h₁, k₁⟩ := run_bind_iff.mp h
    refine (balanced_attemptV1 h₁).append ?_
    rcases r with o | dead
    · rw [(run_pure_iff.mp k₁).1]; exact .nil
    · exact balanced_attemptP256 k₁
  · exact balanced_attemptP256 h

theorem balanced_backoff {attempts : ℕ} {r : Except ScsiError Unit}
    (h : Run (backoff attempts) τ r) : Balanced τ := by
  unfold backoff at h
  split_ifs at h
  · rw [run_ask_iff.mp h]
    exact .outside ⟨rfl, id⟩ id .nil
  · rw [(run_pure_iff.mp h).1]; exact .nil

theorem balanced_certLoop {certs : List HostCert} {allowP256 : Bool} {attempts : ℕ}
    {dead : Bool} {r : Except UnlockError CertHandshake}
    (h : Run (certLoop c fuel la allowP256 certs attempts dead) τ r) :
    Balanced τ := by
  induction certs generalizing τ attempts dead with
  | nil => rw [(run_pure_iff.mp h).1]; exact .nil
  | cons hc certs ih =>
    unfold certLoop at h
    dsimp only at h
    split_ifs at h with h₁ h₂ h₃
    · rw [(run_pure_iff.mp h).1]; exact .nil
    · exact ih h
    · exact ih h
    · obtain ⟨τ₁, b, τ₂, rfl, hb, k₁⟩ := run_bind_iff.mp h
      refine (balanced_backoff hb).append ?_
      rcases b with e | _
      · rw [(run_pure_iff.mp k₁).1]; exact .nil
      · obtain ⟨τ₃, o, τ₄, rfl, ho, k₂⟩ := run_bind_iff.mp k₁
        refine (balanced_attemptOneCert ho).append ?_
        rcases o with ch | _ | _ | ⟨code, dead'⟩
        · rw [(run_pure_iff.mp k₂).1]; exact .nil
        · rw [(run_pure_iff.mp k₂).1]; exact .nil
        · rw [(run_pure_iff.mp k₂).1]; exact .nil
        · exact ih k₂

/-- Every grant is released once, at the end of its own session, nothing else is released, and the
commands of a session are sent under a held AGID only. -/
theorem runCertHandshake_agidLedger {certs : List HostCert} {allowP256 : Bool}
    {r : Except UnlockError CertHandshake}
    (h : Run (runCertHandshakeWithAnchors c fuel certs la allowP256) τ r) :
    (∀ pre alloc post agid, τ = pre ++ alloc :: post → grantedAgid alloc = some agid →
      ∃ body rel rest, post = body ++ rel :: rest ∧ (∀ e ∈ body, InSession agid e) ∧
        Releases agid rel ∧
        ∀ mid e rest', rest = mid ++ e :: rest' → IsCleanup e ∨ IsSessionCommand e →
          ∃ alloc' ∈ mid, (grantedAgid alloc').isSome) ∧
    (∀ pre e post, τ = pre ++ e :: post → IsCleanup e →
      ∃ pre' alloc body agid, pre = pre' ++ alloc :: body ∧ grantedAgid alloc = some agid ∧
        (∀ e' ∈ body, InSession agid e') ∧ Releases agid e) ∧
    ∀ pre e post, τ = pre ++ e :: post → IsSessionCommand e →
      ∃ pre' alloc body agid, pre = pre' ++ alloc :: body ∧ grantedAgid alloc = some agid ∧
        (∀ e' ∈ body, InSession agid e') ∧ InSession agid e := by
  have hτ := balanced_certLoop h
  have hcleanup := fun pre e post (hsplit : τ = pre ++ e :: post) (he : IsCleanup e) =>
    hτ.bracketed.opened hsplit he (grantedAgid_of_isCleanup he)
  have hsession := fun pre e post (hsplit : τ = pre ++ e :: post) (he : IsSessionCommand e) =>
    hτ.opened outside_of_isSessionCommand hsplit he fun _ _ => isCleanup_of_releases
  refine ⟨fun pre alloc post agid hsplit hgrant => ?_, hcleanup, hsession⟩
  obtain ⟨body, rel, rest, rfl, hbody, hrel, -⟩ := hτ.bracketed.closed hsplit hgrant
  refine ⟨body, rel, rest, rfl, hbody, hrel, ?_⟩
  rintro mid e rest' rfl he
  have hsplit' : τ = ((pre ++ alloc :: body) ++ rel :: mid) ++ e :: rest' := by simp [hsplit]
  -- The session in which `e` stands was opened after this release.
  obtain ⟨pre', alloc', body', agid', hpre, hgrant', hbody'⟩ : ∃ pre' alloc' body' agid',
      (pre ++ alloc :: body) ++ rel :: mid = pre' ++ alloc' :: body' ∧
        grantedAgid alloc' = some agid' ∧ ∀ e' ∈ body', InSession agid' e' := by
    rcases he with he | he
    · obtain ⟨pre', alloc', body', agid', hpre, hgrant', hbody', -⟩ := hcleanup _ _ _ hsplit' he
      exact ⟨pre', alloc', body', agid', hpre, hgrant', hbody'⟩
    · obtain ⟨pre', alloc', body', agid', hpre, hgrant', hbody', -⟩ := hsession _ _ _ hsplit' he
      exact ⟨pre', alloc', body', agid', hpre, hgrant', hbody'⟩
  have hclose := isCleanup_of_releases hrel
  have hmid : alloc' ∈ mid := Bracketed.opens_after_closing (B := agidSpans) hpre hclose
    (grantedAgid_of_isCleanup hclose) hgrant' hbody'
  exact ⟨alloc', hmid, Option.isSome_of_mem hgrant'⟩

/-- A drive that grants an AGID and refuses every other command. -/
def refusingDrive : Handler Scsi Unit
  | .execute cdb _ data _, s =>
    (⟨.ok ⟨if IsReportKey cdb 0x00 then 0 else 2, data.length, Vector.replicate 32 0⟩,
      Vector.replicate data.length 0x80⟩, s)
  | .executeCleanup _ _ data _, s =>
    (⟨.ok ⟨0, data.length, Vector.replicate 32 0⟩, Vector.replicate data.length 0⟩, s)
  | .pause _, s => (.ok (), s)
  | .beginCritical, s => (.ok (), s)
  | .endCritical, s => ((), s)
  | .now, s => ((0 : ℕ), s)
  | .fillBytes n, s => (Vector.ofFn fun i => if i.val + 1 = n then 1 else 0, s)
  | .diagnosticMemory _ _ _, s => (.error .other, s)
  | .quietDrive, s => (.failed none, s)

/-- Primitives for runs that reach none of them. -/
def Crypto.unused : Crypto := ⟨fun _ => [], fun _ => [], fun _ b => b, fun _ b => b⟩

def unitCert : HostCert where
  privateKey := aacs1.encode 1
  certificate := List.replicate 12 0 ++ (aacs1.encode ecGx).toList ++ (aacs1.encode ecGy).toList ++
    List.replicate 40 0
  privateKeyV2 := none
  certificateV2 := none

def Anchors.zero : Anchors :=
  ⟨Vector.replicate 20 0, Vector.replicate 20 0, Vector.replicate 32 0, Vector.replicate 32 0⟩

theorem runCertHandshake_agidLedger_refused :
    ∃ τ r, Run (runCertHandshakeWithAnchors .unused 1 [unitCert] .zero false) τ r ∧
      ∃ alloc ∈ τ, ∃ agid, grantedAgid alloc = some agid ∧ ∃ rel ∈ τ, Releases agid rel := by
  have hex : (exec refusingDrive (runCertHandshakeWithAnchors .unused 1 [unitCert] .zero false)
      ()).any (fun x => x.2.1.any fun e => (grantedAgid e).isSome) = true := by decide +kernel
  obtain ⟨r, τ, _, hrun, hany⟩ := exists_run_of_any hex
  obtain ⟨alloc, (hmem : alloc ∈ τ), hsome⟩ := List.any_eq_true.mp hany
  obtain ⟨agid, hgrant⟩ := Option.isSome_iff_exists.mp hsome
  obtain ⟨pre, post, hsplit⟩ := List.append_of_mem hmem
  obtain ⟨body, rel, rest, rfl, -, hrel, -⟩ :=
    (runCertHandshake_agidLedger hrun).1 pre alloc post agid hsplit hgrant
  exact ⟨τ, r, hrun, alloc, hmem, agid, hgrant, rel,
    hsplit ▸ by simp, hrel⟩

end FreemkvUnlock.Aacs
