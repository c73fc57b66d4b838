import FreemkvUnlock.Aacs.Ledger
import FreemkvUnlock.DeadBus

/-! # Dead buses in the handshake

The handshake reports a transport failure exactly when a command of its own found the bus dead
or a back-off pause was refused. The sweep that invalidates AGIDs before an allocation does not
count, and after such an event only the release of a held AGID follows.
-/

namespace FreemkvUnlock.Aacs

open Interaction

def Decisive (e : Event Scsi) : Prop := DeadBus e ∧ ¬ IsSweep e ∨ PauseRefused e

def TransportError (e : Error) : Prop := e.isScsiTransportFailure = true

theorem not_decisive_of_isCleanup (e : Event Scsi) (h : IsCleanup e) : ¬ Decisive e :=
  fun hd => hd.elim (fun hd => not_deadBus_of_isCleanup h hd.1) (not_pauseRefused_of_isCleanup h)

/-! ## Transfers -/

section Transfers

variable {cdb : List UInt8} {len : ℕ}

theorem transportError_ofScsiError {e : ScsiError} :
    TransportError (Error.ofScsiError e) ↔ isDeadBus e = true := by
  unfold TransportError Error.ofScsiError isDeadBus
  rcases e.sense with _ | s <;> simp [Error.isScsiTransportFailure]

theorem not_transportError_checkStatus {r : ScsiResult} :
    ¬ Fails TransportError (checkStatus cdb r) := by
  unfold checkStatus
  split_ifs
  · exact id
  · simp [TransportError, Error.isScsiTransportFailure]

theorem readReply_transport_iff (o : Outcome len) :
    Fails TransportError (readReply cdb o) ↔ FoundDead o.result := by
  unfold readReply FoundDead
  rcases o.result with e | r
  · simpa [Except.mapError, bind, Except.bind] using transportError_ofScsiError
  · have hc : ¬ Fails TransportError (checkStatus cdb r) := not_transportError_checkStatus
    simp only [Except.mapError, bind, Except.bind, reduceCtorEq, false_and, exists_false,
      iff_false]
    rcases hs : checkStatus cdb r with e | u
    · rwa [hs] at hc
    · dsimp only
      split_ifs
      · simp [TransportError, Error.isScsiTransportFailure]
      · exact id

theorem writeReply_transport_iff (o : Outcome len) :
    Fails TransportError (writeReply cdb o) ↔ FoundDead o.result := by
  unfold writeReply FoundDead
  rcases o.result with e | r
  · simpa [Except.mapError, bind, Except.bind] using transportError_ofScsiError
  · have hc : ¬ Fails TransportError (checkStatus cdb r) := not_transportError_checkStatus
    simpa [Except.mapError, bind, Except.bind] using hc

theorem decisive_execute_iff {data : List UInt8} {dir : DataDirection} {t : ℕ}
    (h : ¬ IsReportKey cdb 0x3F) (o : Outcome data.length) :
    Decisive ⟨.execute cdb dir data t, o⟩ ↔ FoundDead o.result := by
  constructor
  · rintro (⟨hd, -⟩ | hp)
    · exact hd
    · exact hp.elim
  · intro hd
    exact .inl ⟨hd, h⟩

theorem haltsOn_scsiRead (h : ¬ IsReportKey cdb 0x3F) :
    HaltsOn Decisive NoTail (Fails TransportError) (scsiRead cdb len).run :=
  .askResult (fun o => (readReply_transport_iff o).trans (decisive_execute_iff h o).symm) rfl

theorem haltsOn_scsiWrite {data : List UInt8} (h : ¬ IsReportKey cdb 0x3F) :
    HaltsOn Decisive NoTail (Fails TransportError) (scsiWrite cdb data).run :=
  .askResult (fun o => (writeReply_transport_iff o).trans (decisive_execute_iff h o).symm) rfl

/-- A step keeps a dead bus and never makes one up. -/
theorem haltsOn_step {α : Type} {fallback : Error} {x : Session α}
    (hf : fallback.isScsiTransportFailure = false)
    (hx : HaltsOn Decisive NoTail (Fails TransportError) x.run) :
    HaltsOn Decisive NoTail (Fails TransportError) (step fallback x).run :=
  hx.mapErr fun e => by
    unfold handshakeErr TransportError
    split_ifs with h
    · exact Iff.rfl
    · simp [hf, h]

end Transfers

/-! ## Authentication -/

section Sessions

variable {c : Crypto} {fuel : ℕ} {la : Anchors} {agid : UInt8}

theorem not_sweep_cdbKey (h : agid < 4) {opcode format : UInt8} {len : UInt16}
    (h3F : format &&& 0x3F ≠ 0x3F) : ¬ IsReportKey (cdbKey opcode agid format len).toList 0x3F :=
  fun hr => h3F (((agidBits h format).2).symm.trans hr.2)

theorem not_sweep_cdbReportDiscStructure {format : UInt8} {len : UInt16} :
    ¬ IsReportKey (cdbReportDiscStructure agid format len).toList 0x3F :=
  fun hr => absurd hr.1 (show ¬ scsiReadDiscStructure = scsiReportKey by decide)

theorem not_decisive_fillBytes (n : ℕ) (r) : ¬ Decisive ⟨.fillBytes n, r⟩ := by
  rintro (⟨h, -⟩ | h)
  · exact h
  · exact h

def TransportFail (f : V1Fail) : Prop := f.isTransport = true

theorem transportFail_other {e : Error} : TransportFail (.other e) ↔ TransportError e := Iff.rfl

theorem not_transportFail_checkDriveCert {cert : List UInt8} {e : V1Fail}
    (h : checkDriveCert c cert la = .error e) : ¬ TransportFail e := by
  unfold checkDriveCert at h
  split_ifs at h <;> cases h <;> exact nofun

theorem haltsOn_aacsAuthenticateWithAgid (h : agid < 4) (k : Vector UInt8 20)
    (cert : List UInt8) :
    HaltsOn Decisive NoTail (Fails TransportFail)
      (aacsAuthenticateWithAgid c fuel agid k cert la).run := by
  have other : ∀ {α : Type} {x : Session α}, HaltsOn Decisive NoTail (Fails TransportError) x.run →
      HaltsOn Decisive NoTail (Fails TransportFail) (x.mapErr V1Fail.other).run :=
    fun hx => hx.mapErr fun e => transportFail_other
  refine .seq (.lift (.ask fun r => not_decisive_fillBytes _ r)) fun nonce => ?_
  refine .seq (.lift (issues_generateKeyPair _ not_decisive_fillBytes)) fun ⟨key, x, y⟩ => ?_
  refine .seq (other (haltsOn_step rfl (haltsOn_scsiWrite (not_sweep_cdbKey h (by decide)))))
    fun _ => ?_
  refine .seq (other (haltsOn_step rfl (haltsOn_scsiRead (not_sweep_cdbKey h (by decide)))))
    fun certReply => ?_
  refine .seq (.result fun _ he => not_transportFail_checkDriveCert he) fun _ => ?_
  refine .seq (other (haltsOn_step rfl (haltsOn_scsiRead (not_sweep_cdbKey h (by decide)))))
    fun keyReply => ?_
  refine .seq (.ensure nofun) fun _ => ?_
  refine .seq (.lift (issues_sign _ not_decisive_fillBytes)) fun ⟨r, s⟩ => ?_
  refine .seq (.ensure nofun) fun _ => ?_
  refine .seq (other (haltsOn_step rfl (haltsOn_scsiWrite (not_sweep_cdbKey h (by decide)))))
    fun _ => ?_
  exact .seq (.okOr nofun) fun _ => .ret _

theorem not_transportError_checkDriveCertP256 {cert : List UInt8} {e : Error}
    (h : checkDriveCertP256 c cert la = .error e) : ¬ TransportError e := by
  unfold checkDriveCertP256 at h
  split_ifs at h <;> cases h <;> exact nofun

theorem haltsOn_aacs2AuthenticateP256WithAgid (h : agid < 4) (k : Vector UInt8 32)
    (cert : List UInt8) :
    HaltsOn Decisive NoTail (Fails TransportError)
      (aacs2AuthenticateP256WithAgid c fuel agid k cert la).run := by
  refine .seq (.lift (.ask fun r => not_decisive_fillBytes _ r)) fun nonce => ?_
  refine .seq (.lift (issues_generateKeyPair _ not_decisive_fillBytes)) fun ⟨key, x, y⟩ => ?_
  refine .seq (haltsOn_step rfl (haltsOn_scsiWrite (not_sweep_cdbKey h (by decide)))) fun _ => ?_
  refine .seq (haltsOn_step rfl (haltsOn_scsiRead (not_sweep_cdbKey h (by decide))))
    fun certReply => ?_
  refine .seq (.result fun _ he => not_transportError_checkDriveCertP256 he) fun _ => ?_
  refine .seq (haltsOn_step rfl (haltsOn_scsiRead (not_sweep_cdbKey h (by decide))))
    fun keyReply => ?_
  refine .seq (.ensure nofun) fun _ => ?_
  refine .seq (.lift (issues_sign _ not_decisive_fillBytes)) fun ⟨r, s⟩ => ?_
  refine .seq (.ensure nofun) fun _ => ?_
  refine .seq (haltsOn_step rfl (haltsOn_scsiWrite (not_sweep_cdbKey h (by decide)))) fun _ => ?_
  exact .seq (.okOr nofun) fun _ => .ret _

theorem issues_invalidateAgids_sweep (agids : List UInt8) (h : ∀ agid ∈ agids, agid < 4) :
    Issues (fun e => ¬ Decisive e) (invalidateAgids agids) := by
  induction agids with
  | nil => exact .pure _
  | cons agid agids ih =>
    rw [List.forall_mem_cons] at h
    have hs : IsReportKey (cdbReportKey agid 0x3F 2).toList 0x3F := ⟨rfl, (agidBits h.1 0x3F).2⟩
    refine .bind (issues_scsiRead fun o => ?_) fun _ => ih h.2
    rintro (⟨-, hn⟩ | hp)
    · exact hn hs
    · exact hp

theorem haltsOn_allocateAgid :
    HaltsOn Decisive NoTail (Fails TransportError) allocateAgid.run :=
  .seq (haltsOn_step rfl (haltsOn_scsiRead (by decide))) fun _ => .ret _

theorem haltsOn_withAllocatedAgid {ε : Type} {p : ε → Prop} {f : Error → ε}
    {authenticate : UInt8 → Fallible Scsi ε AacsAuth} (hf : ∀ e, p (f e) ↔ TransportError e)
    (ha : ∀ agid < 4, HaltsOn Decisive NoTail (Fails p) (authenticate agid).run) :
    HaltsOn Decisive ReleaseTail (Fails p) (withAllocatedAgid f authenticate).run := by
  refine .seq (.lift (issues_invalidateAgids_sweep _ (by simp))) fun _ => ?_
  refine .seq_of_run ((haltsOn_allocateAgid.mapErr hf).mono releaseTail_of_noTail)
    fun _ agid h => ?_
  obtain ⟨_, -, hok, -⟩ := run_allocateAgid (run_mapErr_ok_iff.mp h)
  exact haltsOn_holding not_decisive_of_isCleanup (ha agid (hok agid rfl).2)

theorem haltsOn_aacs1Ake {k : Vector UInt8 20} {cert : List UInt8} :
    HaltsOn Decisive ReleaseTail (Fails TransportFail) (aacs1Ake c fuel k cert la).run :=
  .seq (.ensure nofun) fun _ => haltsOn_withAllocatedAgid (fun _ => transportFail_other)
    fun _ hlt => haltsOn_aacsAuthenticateWithAgid hlt k cert

theorem haltsOn_aacs2AuthenticateP256WithAnchor {k : Vector UInt8 32} {cert : List UInt8} :
    HaltsOn Decisive ReleaseTail (Fails TransportError)
      (aacs2AuthenticateP256WithAnchor c fuel k cert la).run :=
  .seq (.ensure nofun) fun _ => haltsOn_withAllocatedAgid (fun _ => Iff.rfl)
    fun _ hlt => haltsOn_aacs2AuthenticateP256WithAgid hlt k cert

/-! ## Volume ID and data keys -/

theorem haltsOn_readVolumeId {auth : AacsAuth} :
    HaltsOn Decisive NoTail (Fails TransportError) (readVolumeId c auth).run :=
  .seq (haltsOn_step rfl (haltsOn_scsiRead not_sweep_cdbReportDiscStructure)) fun _ =>
    .seq (.ensure nofun) fun _ => .ret _

theorem haltsOn_readDataKeys {auth : AacsAuth} :
    HaltsOn Decisive NoTail (Fails TransportError) (readDataKeys c auth).run :=
  .seq (haltsOn_step rfl (haltsOn_scsiRead not_sweep_cdbReportDiscStructure)) fun _ =>
    .seq (.ensure nofun) fun _ => .ret _

theorem ofVidError_eq_transport_iff {e : Error} :
    FinishErr.ofVidError e = .transport ↔ TransportError e := by
  unfold FinishErr.ofVidError TransportError
  split_ifs with h₁ h₂ <;> simp [h₁]

theorem haltsOn_finishReads {auth : AacsAuth} :
    HaltsOn Decisive NoTail (Fails (· = .transport)) (finishReads c auth).run := by
  refine .seq (haltsOn_readVolumeId.mapErr fun e => ofVidError_eq_transport_iff)
    fun ⟨vid, auth'⟩ => ?_
  dsimp only
  split_ifs
  · refine .lift_seq haltsOn_readDataKeys (fun r τ b hR h => ?_) fun r hR => ?_
    · rcases r with e | a
      · have ht : e.isScsiTransportFailure = true := hR
        dsimp only at h
        rw [if_pos ht] at h
        obtain ⟨rfl, rfl⟩ := run_throw_iff.mp h
        exact ⟨rfl, rfl⟩
      · exact hR.elim
    · rcases r with e | ⟨⟨rdk, wdk⟩, auth'⟩
      · have ht : ¬ e.isScsiTransportFailure = true := hR
        dsimp only
        rw [if_neg ht]
        exact .ret _
      · exact .ret _
  · exact .ret _

theorem haltsOn_finishAuth {guard : AgidGuard} {auth : AacsAuth} :
    HaltsOn Decisive ReleaseTail (Fails (· = .transport)) (finishAuth c guard auth).run := by
  refine haltsOn_finishReads.closing (not_fatal_of_releaseTail not_decisive_of_isCleanup)
    fun r τ b h => ?_
  obtain ⟨τ₁, _, τ₂, rfl, h₁, h₂⟩ := run_bind_iff.mp h
  obtain ⟨rfl, rfl⟩ := run_pure_iff.mp h₂
  exact ⟨Iff.rfl, .inr (by simpa using run_drop_cleanup h₁)⟩

/-! ## The whole handshake -/

theorem haltsOn_attemptP256 {hc : HostCert} {dead : Bool} :
    HaltsOn Decisive ReleaseTail (· = .transport) (attemptP256 c fuel hc la dead) := by
  unfold attemptP256
  split
  · rename_i k cert _ _
    refine haltsOn_aacs2AuthenticateP256WithAnchor.bind (fun r τ b hR h => ?_) fun r hR => ?_
    · rcases r with e | a
      · obtain ⟨rfl, rfl⟩ := run_pure_iff.mp h
        exact ⟨rfl, if_pos hR⟩
      · exact hR.elim
    · rcases r with e | ⟨auth, guard⟩
      · have hne : CertOutcome.ofFail dead e = .reject e.code dead := if_neg hR
        exact .pure (by simp [hne])
      · refine haltsOn_finishAuth.map fun r => ?_
        rcases r with (_ | _ | _) | ch <;> simp [CertOutcome.ofFinish]
  · exact .pure nofun

theorem haltsOn_attemptV1 {hc : HostCert} {hasV2 : Bool} :
    HaltsOn Decisive ReleaseTail (· = .done .transport) (attemptV1 c fuel hc la hasV2) := by
  refine haltsOn_aacs1Ake.bind (fun r τ b hR h => ?_) fun r hR => ?_
  · rcases r with f | a
    · obtain ⟨rfl, rfl⟩ := run_pure_iff.mp h
      exact ⟨rfl, if_pos hR⟩
    · exact hR.elim
  · rcases r with f | ⟨auth, guard⟩
    · have hne : ¬ f.isTransport = true := hR
      refine .pure ?_
      unfold V1Step.ofFail
      rw [if_neg hne]
      split_ifs <;> nofun
    · refine haltsOn_finishAuth.map fun r => ?_
      cases hasV2 <;> rcases r with (_ | _ | _) | ch <;> simp [V1Step.ofFinish]

theorem haltsOn_attemptOneCert {hc : HostCert} {tryV1 hasV2 : Bool} :
    HaltsOn Decisive ReleaseTail (· = .transport) (attemptOneCert c fuel hc la tryV1 hasV2) := by
  unfold attemptOneCert
  split_ifs
  · refine haltsOn_attemptV1.bind (fun o τ b hR h => ?_) fun o hR => ?_
    · subst hR
      obtain ⟨rfl, rfl⟩ := run_pure_iff.mp h
      exact ⟨rfl, rfl⟩
    · rcases o with o | dead
      · exact .pure fun ho => hR (congrArg V1Step.done ho)
      · exact haltsOn_attemptP256
  · exact haltsOn_attemptP256

theorem haltsOn_backoff {attempts : ℕ} :
    HaltsOn Decisive ReleaseTail (fun r => ∃ e, r = .error e) (backoff attempts) := by
  unfold backoff
  split_ifs
  · have hF : ∀ r : Except ScsiError Unit,
        (∃ e, r = .error e) ↔ Decisive ⟨.pause perCertBackoffMs, r⟩ :=
      fun r => ⟨.inr, fun h => h.resolve_left fun hd => hd.1⟩
    exact HaltsOn.ask (I := Scsi) (o := .pause perCertBackoffMs) hF (Or.inl rfl)
  · exact .pure nofun

/-- Only refusals of the handshake itself leave the loop without a transport failure. -/
theorem certsExhausted_mem (attempts : ℕ) :
    certsExhausted attempts = .noUsableHostCert ∨ certsExhausted attempts = .handshakeRejected := by
  unfold certsExhausted
  split_ifs <;> simp

theorem haltsOn_certLoop {certs : List HostCert} {allowP256 : Bool} {attempts : ℕ}
    {dead : Bool} :
    HaltsOn Decisive ReleaseTail (Fails (· = .transport))
      (certLoop c fuel la allowP256 certs attempts dead) := by
  have exhausted : ∀ n, HaltsOn Decisive ReleaseTail (Fails (· = .transport))
      (pure (.error (certsExhausted n)) : Prog Scsi (Except UnlockError CertHandshake)) := by
    intro n
    refine .pure fun h => ?_
    rcases certsExhausted_mem n with hc | hc <;> rw [hc] at h <;> cases h
  induction certs generalizing attempts dead with
  | nil => exact exhausted attempts
  | cons hc certs ih =>
    unfold certLoop
    dsimp only
    split_ifs
    · exact exhausted attempts
    · exact ih
    · exact ih
    · refine haltsOn_backoff.bind (fun r τ b hR h => ?_) fun r hR => ?_
      · obtain ⟨e, rfl⟩ := hR
        obtain ⟨rfl, rfl⟩ := run_pure_iff.mp h
        exact ⟨rfl, rfl⟩
      rcases r with e | u
      · exact absurd ⟨e, rfl⟩ hR
      refine haltsOn_attemptOneCert.bind (fun o τ b hR h => ?_) fun o hR => ?_
      · subst hR
        obtain ⟨rfl, rfl⟩ := run_pure_iff.mp h
        exact ⟨rfl, rfl⟩
      rcases o with ch | _ | _ | ⟨code, dead'⟩
      · exact .pure id
      · exact absurd rfl hR
      · exact .pure fun h => by cases h
      · exact ih

theorem certLoop_ne_notApplicable {certs : List HostCert} {allowP256 : Bool} {attempts : ℕ}
    {dead : Bool} {τ : List (Event Scsi)} {e : UnlockError}
    (h : Run (certLoop c fuel la allowP256 certs attempts dead) τ (.error e)) :
    e ≠ .notApplicable := by
  have exhausted : ∀ n, certsExhausted n ≠ .notApplicable := by
    intro n
    rcases certsExhausted_mem n with hc | hc <;> simp [hc]
  induction certs generalizing τ attempts dead with
  | nil => exact Except.error.inj (run_pure_iff.mp h).2 ▸ exhausted attempts
  | cons hc certs ih =>
    unfold certLoop at h
    dsimp only at h
    split_ifs at h
    · exact Except.error.inj (run_pure_iff.mp h).2 ▸ exhausted attempts
    · exact ih h
    · exact ih h
    · obtain ⟨τ₁, b, τ₂, rfl, -, k₁⟩ := run_bind_iff.mp h
      rcases b with err | _
      · cases (run_pure_iff.mp k₁).2
        simp
      · obtain ⟨τ₃, o, τ₄, rfl, -, k₂⟩ := run_bind_iff.mp k₁
        rcases o with ch | _ | _ | ⟨code, dead'⟩
        · cases (run_pure_iff.mp k₂).2
        · cases (run_pure_iff.mp k₂).2
          simp
        · cases (run_pure_iff.mp k₂).2
          simp
        · exact ih k₂

/-- A release closes a session that the events before it opened. -/
theorem release_of_balanced {τ pre : List (Event Scsi)} {rel : Event Scsi}
    (h : Balanced τ) (hτ : τ = pre ++ [rel]) (hrel : IsCleanup rel) :
    ∃ agid before alloc body, pre = before ++ alloc :: body ∧ grantedAgid alloc = some agid ∧
      (∀ e ∈ body, InSession agid e) ∧ Releases agid rel := by
  obtain ⟨before, alloc, body, agid, rfl, hgrant, hbody, hreleases⟩ :=
    h.bracketed.opened hτ hrel (grantedAgid_of_isCleanup hrel)
  exact ⟨agid, before, alloc, body, rfl, hgrant, hbody, hreleases⟩

/-- A transport failure is reported exactly for a dead bus or a refused pause, after which only
the release of a held AGID follows; any other course ends in success or in another error. -/
theorem runCertHandshake_deadBus {certs : List HostCert} {allowP256 : Bool}
    {τ : List (Event Scsi)} {r : Except UnlockError CertHandshake}
    (h : Run (runCertHandshakeWithAnchors c fuel certs la allowP256) τ r) :
    (r = .error .transport ↔ ∃ e ∈ τ, Decisive e) ∧
    (∀ pre e post, τ = pre ++ e :: post → Decisive e → post = [] ∨
      ∃ agid rel before alloc body, post = [rel] ∧ Releases agid rel ∧
        pre ++ [e] = before ++ alloc :: body ∧ grantedAgid alloc = some agid ∧
        ∀ e' ∈ body, InSession agid e') ∧
    ((∀ e ∈ τ, ¬ Decisive e) → (∃ ch, r = .ok ch) ∨ r = .error .noUsableHostCert ∨
      r = .error .handshakeRejected ∨ r = .error .vidUnavailable) := by
  have hhalt : HaltsOn Decisive ReleaseTail (Fails (· = .transport))
      (certLoop c fuel la allowP256 certs 0 false) := haltsOn_certLoop
  have hiff : r = .error .transport ↔ ∃ e ∈ τ, Decisive e := by
    rw [← hhalt.result_iff h]
    rcases r with e | ch <;> simp
  refine ⟨hiff, fun pre e post hτ he => ?_, fun hclean => ?_⟩
  · rcases hhalt.tail (not_fatal_of_releaseTail not_decisive_of_isCleanup) h hτ he with
      rfl | ⟨rel, rfl, hrel⟩
    · exact .inl rfl
    · obtain ⟨agid, before, alloc, body, hpre, hgrant, hbody, hreleases⟩ :=
        release_of_balanced (balanced_certLoop h)
          (show τ = (pre ++ [e]) ++ [rel] by simp [hτ]) hrel
      exact .inr ⟨agid, rel, before, alloc, body, rfl, hreleases, hpre, hgrant, hbody⟩
  · have hne : r ≠ .error .transport := fun hr =>
      let ⟨e, he, hd⟩ := hiff.mp hr
      hclean e he hd
    rcases r with e | ch
    · have hna := certLoop_ne_notApplicable h
      cases e <;> simp_all
    · exact .inl ⟨ch, rfl⟩

end Sessions

/-- A drive that grants an AGID and is gone at the next key command. -/
def vanishingDrive : Handler Scsi Unit
  | .execute cdb _ data _, s =>
    (⟨if cdb.headD 0 = scsiSendKey then .error ⟨scsiStatusTransportFailure, none⟩
      else .ok ⟨0, data.length, Vector.replicate 32 0⟩, Vector.replicate data.length 0x80⟩, s)
  | o, s => refusingDrive o s

theorem runCertHandshake_deadBus_vanishing :
    ∃ τ r, Run (runCertHandshakeWithAnchors .unused 1 [unitCert] .zero false) τ r ∧
      r = .error .transport ∧ ∃ e ∈ τ, Decisive e := by
  have hex : (exec vanishingDrive (runCertHandshakeWithAnchors .unused 1 [unitCert] .zero false)
      ()).any (fun x => Fails (· = .transport) x.1) = true := by decide +kernel
  obtain ⟨r, τ, _, hrun, hr⟩ := exists_run_of_any hex
  have hr' : r = .error .transport := by
    rcases r with e | ch <;> simp_all
  exact ⟨τ, r, hrun, hr', (runCertHandshake_deadBus hrun).1.mp hr'⟩

end FreemkvUnlock.Aacs
