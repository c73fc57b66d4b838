import FreemkvUnlock.Aacs.DeadBus

/-! # Attempts with host certificates

The certificate loop as a list of attempts. An attempt is a 1.0 authentication, a P-256 one, or
the first followed by the second; a pause stands before every attempt but the first. Entries whose
credentials the host itself refuses leave no trace at all.
-/

namespace FreemkvUnlock.Aacs

open Interaction

variable {c : Crypto} {fuel : ℕ} {la : Anchors} {allowP256 : Bool}

/-! ## Entries that are passed over -/

/-- Whether an entry has credentials of either kind that pass the host's own checks. -/
def credsUsable (allowP256 : Bool) (hc : HostCert) : Bool :=
  v1CredsUsable hc || v2CredsUsable hc allowP256

theorem certLoop_capped {attempts : ℕ} (h : maxCertAttempts ≤ attempts) (certs : List HostCert)
    (dead : Bool) : certLoop c fuel la allowP256 certs attempts dead =
      pure (.error (certsExhausted attempts)) := by
  cases certs with
  | nil => rfl
  | cons hc certs => rw [certLoop, if_pos h]

/-- An unusable entry changes nothing for the entries after it. -/
theorem certLoop_unusable {hc : HostCert} (h : credsUsable allowP256 hc = false)
    (certs : List HostCert) (attempts : ℕ) (dead : Bool) :
    certLoop c fuel la allowP256 (hc :: certs) attempts dead =
      certLoop c fuel la allowP256 certs attempts dead := by
  by_cases hcap : maxCertAttempts ≤ attempts
  · rw [certLoop_capped hcap, certLoop_capped hcap]
  · obtain ⟨hv1, hv2⟩ := Bool.or_eq_false_iff.mp h
    rw [certLoop, if_neg hcap]
    cases dead <;> simp [hv1, hv2]

theorem certLoop_cons_congr {certs certs' : List HostCert}
    (h : ∀ attempts dead, certLoop c fuel la allowP256 certs attempts dead =
      certLoop c fuel la allowP256 certs' attempts dead) (hc : HostCert) (attempts : ℕ)
    (dead : Bool) : certLoop c fuel la allowP256 (hc :: certs) attempts dead =
      certLoop c fuel la allowP256 (hc :: certs') attempts dead := by
  simp only [certLoop, h]

theorem certLoop_filter (certs : List HostCert) : ∀ attempts dead,
    certLoop c fuel la allowP256 certs attempts dead =
      certLoop c fuel la allowP256 (certs.filter (credsUsable allowP256)) attempts dead := by
  induction certs with
  | nil => exact fun _ _ => rfl
  | cons hc certs ih =>
    intro attempts dead
    cases h : credsUsable allowP256 hc with
    | false =>
      rw [certLoop_unusable h, ih, List.filter_cons_of_neg (by simp [h])]
    | true =>
      rw [List.filter_cons_of_pos h]
      exact certLoop_cons_congr ih hc attempts dead

theorem certLoop_remove {hc : HostCert} (h : credsUsable allowP256 hc = false)
    (certs certs' : List HostCert) : ∀ attempts dead,
    certLoop c fuel la allowP256 (certs ++ hc :: certs') attempts dead =
      certLoop c fuel la allowP256 (certs ++ certs') attempts dead := by
  induction certs with
  | nil => exact certLoop_unusable h certs'
  | cons hc' certs ih => exact certLoop_cons_congr ih hc'

/-- The handshake makes the same calls and returns the same result on the usable entries alone; an
unusable entry makes no difference wherever it stands and whatever was tried before. -/
theorem runCertHandshake_usable (c : Crypto) (fuel : ℕ) (la : Anchors) (allowP256 : Bool)
    (hostCerts : List HostCert) :
    (∀ (σ : Type) (h : Handler Scsi σ) (s : σ),
      exec h (runCertHandshakeWithAnchors c fuel hostCerts la allowP256) s =
        exec h (runCertHandshakeWithAnchors c fuel
          (hostCerts.filter (credsUsable allowP256)) la allowP256) s) ∧
    ∀ certs hc certs' attempts dead, hostCerts = certs ++ hc :: certs' →
      credsUsable allowP256 hc = false →
      certLoop c fuel la allowP256 hostCerts attempts dead =
        certLoop c fuel la allowP256 (certs ++ certs') attempts dead := by
  refine ⟨fun σ h s => ?_, ?_⟩
  · unfold runCertHandshakeWithAnchors
    rw [certLoop_filter]
  · rintro certs hc certs' attempts dead rfl h
    exact certLoop_remove h certs certs' attempts dead

/-! ## Halves of an attempt -/

inductive HalfEnd (ε : Type)
  | rejected (e : ε)
  | finished (r : Except FinishErr CertHandshake)

/-- An authentication and, when it completes, the reads under its AGID. -/
def half (c : Crypto) {ε : Type} (ake : Fallible Scsi ε (AacsAuth × AgidGuard)) :
    Prog Scsi (HalfEnd ε) := do
  match ← ake.run with
  | .ok (auth, guard) => HalfEnd.finished <$> (finishAuth c guard auth).run
  | .error e => pure (.rejected e)

def V1Step.ofEnd (hasV2 : Bool) : HalfEnd V1Fail → V1Step
  | .rejected f => V1Step.ofFail hasV2 f
  | .finished r => V1Step.ofFinish hasV2 r

def CertOutcome.ofEnd (v1DriveDead : Bool) : HalfEnd Error → CertOutcome
  | .rejected e => CertOutcome.ofFail v1DriveDead e
  | .finished r => CertOutcome.ofFinish r

theorem attemptV1_eq {hc : HostCert} {hasV2 : Bool} : attemptV1 c fuel hc la hasV2 =
    V1Step.ofEnd hasV2 <$> half c (aacs1Ake c fuel hc.privateKey hc.certificate la) := by
  unfold attemptV1 half
  rw [map_bind]
  congr 1
  funext r
  rcases r with f | ⟨auth, guard⟩
  · exact (map_pure _ _).symm
  · dsimp only
    rw [Functor.map_map]
    rfl

theorem attemptP256_eq {hc : HostCert} {k : Vector UInt8 32} {cert : List UInt8} {dead : Bool}
    (hk : hc.privateKeyV2 = some k) (hcert : hc.certificateV2 = some cert) :
    attemptP256 c fuel hc la dead =
      CertOutcome.ofEnd dead <$> half c (aacs2AuthenticateP256WithAnchor c fuel k cert la) := by
  unfold attemptP256 half
  rw [hk, hcert, map_bind]
  dsimp only
  congr 1
  funext r
  rcases r with e | ⟨auth, guard⟩
  · exact (map_pure _ _).symm
  · dsimp only
    rw [Functor.map_map]
    rfl

/-! ## Calls of a half -/

def keyOpcodes : List UInt8 := [scsiReportKey, scsiSendKey, scsiReadDiscStructure]

/-- What an attempt consists of: key and disc-structure commands, and random draws. -/
def KeyCall (e : Event Scsi) : Prop :=
  match e.1 with
  | .execute cdb _ _ _ => cdb.headD 0 ∈ keyOpcodes
  | .executeCleanup cdb _ _ _ => cdb.headD 0 ∈ keyOpcodes
  | .fillBytes _ => True
  | _ => False

theorem keyCall_of_inSession {agid : UInt8} {e : Event Scsi} (h : InSession agid e) :
    KeyCall e := by
  obtain ⟨o, r⟩ := e
  cases o <;> first | exact h.1 | exact trivial | exact h.elim

theorem headD_cdbReportKey {agid format : UInt8} {len : UInt16} :
    (cdbReportKey agid format len).toList.headD 0 ∈ keyOpcodes := by
  simp [cdbReportKey, cdbKey, keyOpcodes]

theorem keyCall_reportKey {agid format : UInt8} {len : UInt16} {dir : DataDirection}
    {data : List UInt8} {t : ℕ} (o) :
    KeyCall ⟨.execute (cdbReportKey agid format len).toList dir data t, o⟩ := headD_cdbReportKey

theorem issues_drop {agid : UInt8} : Issues KeyCall (agidGuard agid).drop :=
  .bind (.ask fun _ => headD_cdbReportKey) fun _ => .pure _

theorem keyCall_withAllocatedAgid {ε : Type} {f : Error → ε}
    {authenticate : UInt8 → Fallible Scsi ε AacsAuth}
    (h : ∀ agid < 4, Issues (InSession agid) (authenticate agid).run) :
    Issues KeyCall (withAllocatedAgid f authenticate).run := by
  have hsweep : ∀ agids, Issues KeyCall (invalidateAgids agids) := by
    intro agids
    induction agids with
    | nil => exact .pure _
    | cons agid agids ih => exact .bind (issues_scsiRead keyCall_reportKey) fun _ => ih
  refine .seq (.lift (hsweep _)) fun _ => .seq_of_run (.mapErr _ (.seq
    (.mapErr _ (issues_scsiRead keyCall_reportKey)) fun _ => .ret _)) fun τ agid hr => ?_
  obtain ⟨_, -, hok, -⟩ := run_allocateAgid (run_mapErr_ok_iff.mp hr)
  refine .bind ((h agid (hok agid rfl).2).mono fun _ => keyCall_of_inSession) fun r => ?_
  rcases r with e | auth
  · exact .bind issues_drop fun _ => .pure _
  · exact .pure _

theorem keyCall_half {ε : Type} {ake : Fallible Scsi ε (AacsAuth × AgidGuard)}
    (h : Issues KeyCall ake.run) (hopen : ∀ τ auth guard, Run ake.run τ (.ok (auth, guard)) →
      guard = agidGuard auth.agid ∧ OpenSession auth.agid τ) : Issues KeyCall (half c ake) := by
  refine .bind_of_run h fun τ r hr => ?_
  rcases r with e | ⟨auth, guard⟩
  · exact .pure _
  · obtain ⟨rfl, hlt, -⟩ := hopen τ auth guard hr
    have hreads := (issues_finishReads (c := c) hlt).mono fun _ => keyCall_of_inSession
    exact .map (.bind hreads fun _ => .bind issues_drop fun _ => .pure _)

def IsCommand (e : Event Scsi) : Prop := ∃ cdb dir data t r, e = ⟨.execute cdb dir data t, r⟩

/-- An authentication starts with a command: the sweep comes first. -/
theorem run_withAllocatedAgid_command {ε : Type} {f : Error → ε}
    {authenticate : UInt8 → Fallible Scsi ε AacsAuth} {τ : List (Event Scsi)}
    {r : Except ε (AacsAuth × AgidGuard)} (h : Run (withAllocatedAgid f authenticate).run τ r) :
    ∃ e ∈ τ, IsCommand e := by
  have hsweep : ∀ {τ u}, Run (invalidateAgids [0, 1, 2, 3]) τ u → ∃ e ∈ τ, IsCommand e := by
    intro τ u h
    obtain ⟨τ₁, _, τ₂, rfl, h₁, -⟩ := run_bind_iff.mp h
    obtain ⟨o, rfl, -⟩ := run_scsiRead_iff.mp h₁
    exact ⟨_, List.mem_append_left _ (List.mem_singleton_self _), _, _, _, _, o, rfl⟩
  rcases run_fallible_bind_iff.mp h with ⟨e, rfl, h₁⟩ | ⟨τ₁, _, τ₂, rfl, h₁, -⟩
  · obtain ⟨u, h₁, -⟩ := run_lift_iff.mp h₁
    exact hsweep h₁
  · obtain ⟨e, he, hc⟩ := hsweep (run_lift_ok_iff.mp h₁)
    exact ⟨e, List.mem_append_left _ he, hc⟩

/-! ## One attempt -/

inductive Verdict
  | success (ch : CertHandshake)
  | transport
  | vidUnavailable
  | rejected

/-- The result that ends the loop. -/
def Verdict.result : Verdict → Option (Except UnlockError CertHandshake)
  | success ch => some (.ok ch)
  | transport => some (.error .transport)
  | vidUnavailable => some (.error .vidUnavailable)
  | rejected => none

def CertOutcome.verdict : CertOutcome → Verdict
  | .ok ch => .success ch
  | .transport => .transport
  | .vidUnavailable => .vidUnavailable
  | .reject _ _ => .rejected

namespace HalfEnd

def verdict {ε : Type} (isTransport : ε → Bool) : HalfEnd ε → Verdict
  | rejected e => if isTransport e then .transport else .rejected
  | finished (.ok ch) => .success ch
  | finished (.error .transport) => .transport
  | finished (.error _) => .vidUnavailable

/-- Ends of the 1.0 half that blame the drive's own certificate. -/
def blamesDrive : HalfEnd V1Fail → Bool
  | rejected f => f.isDriveCert
  | finished _ => false

/-- Ends of the 1.0 half that leave the P-256 half to try: a rejection that is no transport
failure, and a failed VID MAC. -/
def FallsThrough : HalfEnd V1Fail → Prop
  | rejected f => f.isTransport = false
  | finished r => r = .error .vidMac

end HalfEnd

structure Attempt where
  hc : HostCert
  v1 : Option (List (Event Scsi) × HalfEnd V1Fail)
  p256 : Option (List (Event Scsi) × HalfEnd Error)

namespace Attempt

variable (a : Attempt)

def events : List (Event Scsi) := a.v1.elim [] Prod.fst ++ a.p256.elim [] Prod.fst

def blamesDrive : Bool := a.v1.any fun half => half.2.blamesDrive

def verdict : Verdict :=
  match a.p256, a.v1 with
  | some (_, e), _ => e.verdict Error.isScsiTransportFailure
  | none, some (_, e) => e.verdict V1Fail.isTransport
  | none, none => .vidUnavailable

/-- The halves are runs of the two authentications, each with credentials the host accepts. -/
structure Sound (c : Crypto) (fuel : ℕ) (la : Anchors) (allowP256 : Bool) : Prop where
  v1 : ∀ ρ e, a.v1 = some (ρ, e) → v1CredsUsable a.hc = true ∧
    Run (half c (aacs1Ake c fuel a.hc.privateKey a.hc.certificate la)) ρ e
  p256 : ∀ ρ e, a.p256 = some (ρ, e) → v2CredsUsable a.hc allowP256 = true ∧
    ∃ k cert, a.hc.privateKeyV2 = some k ∧ a.hc.certificateV2 = some cert ∧
      Run (half c (aacs2AuthenticateP256WithAnchor c fuel k cert la)) ρ e
  order : a.p256.isSome = true → ∀ ρ e, a.v1 = some (ρ, e) → e.FallsThrough
  handsOver : v2CredsUsable a.hc allowP256 = true → ∀ ρ e, a.v1 = some (ρ, e) → e.FallsThrough →
    a.p256.isSome = true
  reaches : ∃ e ∈ a.events, IsCommand e
  calls : ∀ e ∈ a.events, KeyCall e

end Attempt

section Ends

variable {dead hasV2 : Bool}

theorem verdict_ofEnd (e : HalfEnd Error) :
    (CertOutcome.ofEnd dead e).verdict = e.verdict Error.isScsiTransportFailure := by
  rcases e with e | (_ | _ | _) | ch
  · simp only [CertOutcome.ofEnd, CertOutcome.ofFail, HalfEnd.verdict]
    split_ifs <;> rfl
  all_goals rfl

theorem dead_of_ofEnd_reject {e : HalfEnd Error} {code : ℕ} {dead' : Bool}
    (h : CertOutcome.ofEnd dead e = .reject code dead') : dead' = dead := by
  rcases e with e | (_ | _ | _) | ch
  · simp only [CertOutcome.ofEnd, CertOutcome.ofFail] at h
    split_ifs at h
    cases h
    rfl
  all_goals cases h

theorem ofEnd_cases (hasV2 : Bool) (e : HalfEnd V1Fail) :
    (∃ o, V1Step.ofEnd hasV2 e = .done o ∧ o.verdict = e.verdict V1Fail.isTransport ∧
      (∀ code dead, o = .reject code dead → dead = e.blamesDrive) ∧
      (hasV2 = true → ¬ e.FallsThrough)) ∨
    hasV2 = true ∧ V1Step.ofEnd hasV2 e = .fallThrough e.blamesDrive ∧ e.FallsThrough := by
  rcases e with f | (_ | _ | _) | ch
  · by_cases ht : f.isTransport = true
    · exact .inl ⟨.transport, by simp [V1Step.ofEnd, V1Step.ofFail, ht],
        by simp [CertOutcome.verdict, HalfEnd.verdict, ht], nofun, fun _ => by
          simp [HalfEnd.FallsThrough, ht]⟩
    · cases hasV2 with
      | false =>
        refine .inl ⟨.reject f.intoError.code f.isDriveCert, ?_, ?_, ?_, nofun⟩
        · simp [V1Step.ofEnd, V1Step.ofFail, ht]
        · simp [CertOutcome.verdict, HalfEnd.verdict, ht]
        · rintro code dead h
          exact (CertOutcome.reject.inj h).2.symm
      | true =>
        exact .inr ⟨rfl, by simp [V1Step.ofEnd, V1Step.ofFail, ht, HalfEnd.blamesDrive],
          eq_false_of_ne_true ht⟩
  · exact .inl ⟨_, rfl, rfl, nofun, fun _ => nofun⟩
  · cases hasV2 with
    | false => exact .inl ⟨_, rfl, rfl, nofun, nofun⟩
    | true => exact .inr ⟨rfl, rfl, rfl⟩
  · exact .inl ⟨_, rfl, rfl, nofun, fun _ => nofun⟩
  · exact .inl ⟨_, rfl, rfl, nofun, fun _ => nofun⟩

end Ends

section Runs

variable {τ : List (Event Scsi)} {hc : HostCert}

theorem run_checked_command {ε : Type} {p : Prop} [Decidable p] {err : ε} {f : Error → ε}
    {authenticate : UInt8 → Fallible Scsi ε AacsAuth} {r : Except ε (AacsAuth × AgidGuard)}
    (hp : p) (h : Run (do Fallible.ensure p err; withAllocatedAgid f authenticate :
      Fallible Scsi ε (AacsAuth × AgidGuard)).run τ r) : ∃ e ∈ τ, IsCommand e := by
  rcases run_fallible_bind_iff.mp h with ⟨e, rfl, h₁⟩ | ⟨τ₁, _, τ₂, rfl, -, h₂⟩
  · obtain ⟨-, he⟩ := run_ensure_iff.mp h₁
    rw [if_pos hp] at he
    cases he
  · obtain ⟨e, he, hcmd⟩ := run_withAllocatedAgid_command h₂
    exact ⟨e, List.mem_append_right _ he, hcmd⟩

theorem run_half_command {ε : Type} {ake : Fallible Scsi ε (AacsAuth × AgidGuard)} {e : HalfEnd ε}
    (hake : ∀ {τ r}, Run ake.run τ r → ∃ e ∈ τ, IsCommand e) (h : Run (half c ake) τ e) :
    ∃ e ∈ τ, IsCommand e := by
  obtain ⟨τ₁, r, τ₂, rfl, h₁, -⟩ := run_bind_iff.mp h
  obtain ⟨e', he', hc⟩ := hake h₁
  exact ⟨e', List.mem_append_left _ he', hc⟩

theorem run_v1_half {e : HalfEnd V1Fail} (hv1 : v1CredsUsable hc = true)
    (h : Run (half c (aacs1Ake c fuel hc.privateKey hc.certificate la)) τ e) :
    (∃ e ∈ τ, IsCommand e) ∧ ∀ e ∈ τ, KeyCall e := by
  have hlen : 92 ≤ hc.certificate.length := by
    have := (Bool.and_eq_true_iff.mp hv1).1
    simpa using this
  constructor
  · exact run_half_command (run_checked_command hlen) h
  · exact keyCall_half (.seq (.ensure _ _) fun _ => keyCall_withAllocatedAgid fun agid hlt =>
      issues_aacsAuthenticateWithAgid hlt _ _)
      (fun _ _ _ hr => ((run_aacs1Ake hr).1 _ _ rfl).openV1) h

theorem run_p256_half {dead : Bool} {o : CertOutcome} (hv2 : v2CredsUsable hc allowP256 = true)
    (h : Run (attemptP256 c fuel hc la dead) τ o) :
    ∃ k cert e, hc.privateKeyV2 = some k ∧ hc.certificateV2 = some cert ∧
      Run (half c (aacs2AuthenticateP256WithAnchor c fuel k cert la)) τ e ∧
      o = CertOutcome.ofEnd dead e ∧ (∃ e ∈ τ, IsCommand e) ∧ ∀ e ∈ τ, KeyCall e := by
  simp only [v2CredsUsable, Bool.and_eq_true] at hv2
  obtain ⟨⟨-, hk⟩, hcert⟩ := hv2
  obtain ⟨k, hk⟩ := Option.isSome_iff_exists.mp hk
  obtain ⟨cert, hcert, hlen⟩ := Option.any_eq_true _ _ |>.mp hcert
  have hlen : 132 ≤ cert.length := by simpa using hlen
  rw [attemptP256_eq hk hcert] at h
  obtain ⟨e, hhalf, rfl⟩ := run_map_iff.mp h
  refine ⟨k, cert, e, hk, hcert, hhalf, rfl, ?_, ?_⟩
  · exact run_half_command (run_checked_command hlen) hhalf
  · exact keyCall_half (.seq (.ensure _ _) fun _ => keyCall_withAllocatedAgid fun agid hlt =>
      issues_aacs2AuthenticateP256WithAgid hlt _ _)
      (fun _ _ _ hr => ((run_aacs2AuthenticateP256WithAnchor hr).1 _ _ rfl).openP256) hhalf

theorem run_attemptOneCert {tryV1 : Bool} {o : CertOutcome}
    (hv1 : tryV1 = true → v1CredsUsable hc = true)
    (hany : tryV1 = true ∨ v2CredsUsable hc allowP256 = true)
    (h : Run (attemptOneCert c fuel hc la tryV1 (v2CredsUsable hc allowP256)) τ o) :
    ∃ a : Attempt, a.hc = hc ∧ a.events = τ ∧ a.Sound c fuel la allowP256 ∧
      a.v1.isSome = tryV1 ∧ o.verdict = a.verdict ∧
      ∀ code dead, o = .reject code dead → dead = a.blamesDrive := by
  unfold attemptOneCert at h
  cases tryV1 with
  | false =>
    have hv2 := hany.resolve_left nofun
    obtain ⟨k, cert, e, hk, hcert, hhalf, rfl, hreach, hcalls⟩ := run_p256_half hv2 h
    refine ⟨⟨hc, none, some (τ, e)⟩, rfl, rfl, ⟨nofun, ?_, nofun, nofun, hreach, hcalls⟩, rfl,
      verdict_ofEnd e, fun code dead => dead_of_ofEnd_reject⟩
    rintro _ _ ⟨⟩
    exact ⟨hv2, k, cert, hk, hcert, hhalf⟩
  | true =>
    obtain ⟨τ₁, step, τ₂, rfl, h₁, h₂⟩ := run_bind_iff.mp h
    rw [attemptV1_eq] at h₁
    obtain ⟨e, hhalf, rfl⟩ := run_map_iff.mp h₁
    obtain ⟨⟨x, hx, hcmd⟩, hcalls⟩ := run_v1_half (hv1 rfl) hhalf
    rcases ofEnd_cases (v2CredsUsable hc allowP256) e with
      ⟨o', ho, hverdict, hdead, hnot⟩ | ⟨hv2, ho, hfall⟩
    · rw [ho] at h₂
      obtain ⟨rfl, rfl⟩ := run_pure_iff.mp h₂
      refine ⟨⟨hc, some (τ₁, e), none⟩, rfl, rfl, ⟨?_, nofun, nofun, ?_, ?_, ?_⟩, rfl, hverdict,
        hdead⟩
      · rintro _ _ ⟨⟩
        exact ⟨hv1 rfl, hhalf⟩
      · rintro hv2 _ _ ⟨⟩ hfall
        exact (hnot hv2 hfall).elim
      · exact ⟨x, List.mem_append_left _ hx, hcmd⟩
      · simpa [Attempt.events] using hcalls
    · rw [ho] at h₂
      obtain ⟨k, cert, e', hk, hcert, hhalf', rfl, -, hcalls'⟩ := run_p256_half hv2 h₂
      refine ⟨⟨hc, some (τ₁, e), some (τ₂, e')⟩, rfl, rfl,
        ⟨?_, ?_, ?_, fun _ _ _ _ _ => rfl, ?_, ?_⟩, rfl, verdict_ofEnd e',
        fun code dead => dead_of_ofEnd_reject⟩
      · rintro _ _ ⟨⟩
        exact ⟨hv1 rfl, hhalf⟩
      · rintro _ _ ⟨⟩
        exact ⟨hv2, k, cert, hk, hcert, hhalf'⟩
      · rintro - _ _ ⟨⟩
        exact hfall
      · exact ⟨x, List.mem_append_left _ hx, hcmd⟩
      · exact List.forall_mem_append.mpr ⟨hcalls, hcalls'⟩

end Runs

/-! ## The loop -/

/-- The back-off pause with its answer. -/
def backoffPause (r : Except ScsiError Unit) : Event Scsi := ⟨.pause perCertBackoffMs, r⟩

def pauseBefore (attempts : ℕ) : List (Event Scsi) :=
  if 0 < attempts then [backoffPause (.ok ())] else []

/-- The events of attempts made after `attempts` others. -/
def spaced : ℕ → List Attempt → List (Event Scsi)
  | _, [] => []
  | attempts, a :: as => pauseBefore attempts ++ a.events ++ spaced (attempts + 1) as

inductive Ends (attempts : ℕ) (as : List Attempt) (τ : List (Event Scsi))
    (r : Except UnlockError CertHandshake) : Prop
  | exhausted (hrejected : ∀ a ∈ as, a.verdict = .rejected) (hτ : τ = spaced attempts as)
    (hr : r = .error (certsExhausted (attempts + as.length)))
  | stopped (hrejected : ∀ a ∈ as, a.verdict = .rejected) (hpos : 0 < attempts + as.length)
    (e : ScsiError) (hτ : τ = spaced attempts as ++ [backoffPause (.error e)])
    (hr : r = .error .transport)
  | concluded (init : List Attempt) (a : Attempt) (has : as = init ++ [a])
    (hrejected : ∀ b ∈ init, b.verdict = .rejected) (hτ : τ = spaced attempts as)
    (hr : a.verdict.result = some r)

theorem Ends.cons {attempts : ℕ} {a : Attempt} {as : List Attempt} {τ : List (Event Scsi)}
    {r : Except UnlockError CertHandshake} (ha : a.verdict = .rejected)
    (h : Ends (attempts + 1) as τ r) :
    Ends attempts (a :: as) (pauseBefore attempts ++ a.events ++ τ) r := by
  have hlen : attempts + (a :: as).length = attempts + 1 + as.length := by
    rw [List.length_cons]
    omega
  cases h with
  | exhausted hrejected hτ hr =>
    exact .exhausted (List.forall_mem_cons.mpr ⟨ha, hrejected⟩) (by rw [hτ]; rfl)
      (by rw [hlen]; exact hr)
  | stopped hrejected hpos e hτ hr =>
    exact .stopped (List.forall_mem_cons.mpr ⟨ha, hrejected⟩) (by omega) e
      (by rw [hτ, spaced, List.append_assoc _ _ [_]]) hr
  | concluded init b has hrejected hτ hr =>
    exact .concluded (a :: init) b (by rw [has]; rfl) (List.forall_mem_cons.mpr ⟨ha, hrejected⟩)
      (by rw [hτ]; rfl) hr

/-- The attempts of a loop that has made `attempts` others and knows whether the drive's own 1.0
certificate failed in one of them. -/
structure Tried (c : Crypto) (fuel : ℕ) (la : Anchors) (allowP256 : Bool) (certs : List HostCert)
    (attempts : ℕ) (dead : Bool) (τ : List (Event Scsi)) (r : Except UnlockError CertHandshake)
    (as : List Attempt) : Prop where
  entries : (as.map Attempt.hc).Sublist certs
  capped : as ≠ [] → attempts + as.length ≤ maxCertAttempts
  sound : ∀ a ∈ as, a.Sound c fuel la allowP256
  spared : dead = true → ∀ a ∈ as, a.v1 = none
  blamed : ∀ pre a post, as = pre ++ a :: post → a.blamesDrive = true → ∀ b ∈ post, b.v1 = none
  ends : Ends attempts as τ r

namespace Tried

variable {certs : List HostCert} {attempts : ℕ} {dead : Bool} {τ : List (Event Scsi)}
  {r : Except UnlockError CertHandshake} {as : List Attempt} {hc : HostCert} {a : Attempt}

theorem nil (h : Ends attempts [] τ r) :
    Tried c fuel la allowP256 certs attempts dead τ r [] where
  entries := List.nil_sublist _
  capped h := absurd rfl h
  sound := List.forall_mem_nil _
  spared _ := List.forall_mem_nil _
  blamed pre a post h := by simp at h
  ends := h

theorem exhausted (h : Run (pure (.error (certsExhausted attempts)) :
    Prog Scsi (Except UnlockError CertHandshake)) τ r) :
    Tried c fuel la allowP256 certs attempts dead τ r [] := by
  obtain ⟨rfl, rfl⟩ := run_pure_iff.mp h
  exact .nil (.exhausted (List.forall_mem_nil _) rfl rfl)

theorem skip (h : Tried c fuel la allowP256 certs attempts dead τ r as) :
    Tried c fuel la allowP256 (hc :: certs) attempts dead τ r as :=
  { h with entries := h.entries.cons _ }

theorem conclude (ha : a.hc = hc) (hsound : a.Sound c fuel la allowP256)
    (hcap : attempts < maxCertAttempts) (hspared : dead = true → a.v1 = none)
    (hr : a.verdict.result = some r) : Tried c fuel la allowP256 (hc :: certs) attempts dead
      (pauseBefore attempts ++ a.events) r [a] where
  entries := by simp [ha]
  capped _ := hcap
  sound := by simpa using hsound
  spared h := by simpa using hspared h
  blamed pre b post h _ := by
    rcases pre with _ | ⟨x, pre⟩
    · obtain ⟨-, rfl⟩ := List.cons.inj h
      exact List.forall_mem_nil _
    · simp at h
  ends := .concluded [] a rfl (List.forall_mem_nil _) (by simp [spaced]) hr

theorem cons (ha : a.hc = hc) (hsound : a.Sound c fuel la allowP256)
    (hcap : attempts < maxCertAttempts) (hspared : dead = true → a.v1 = none)
    (hrejected : a.verdict = .rejected)
    (h : Tried c fuel la allowP256 certs (attempts + 1) (dead || a.blamesDrive) τ r as) :
    Tried c fuel la allowP256 (hc :: certs) attempts dead
      (pauseBefore attempts ++ a.events ++ τ) r (a :: as) where
  entries := by
    rw [List.map_cons, ha]
    exact h.entries.cons_cons _
  capped _ := by
    rw [List.length_cons]
    rcases eq_or_ne as [] with rfl | has
    · exact hcap
    · have := h.capped has
      omega
  sound := List.forall_mem_cons.mpr ⟨hsound, h.sound⟩
  spared hd := List.forall_mem_cons.mpr ⟨hspared hd, h.spared (by rw [hd]; rfl)⟩
  blamed pre b post heq hb := by
    rcases pre with _ | ⟨x, pre⟩
    · obtain ⟨rfl, rfl⟩ := List.cons.inj heq
      exact h.spared (by rw [hb, Bool.or_true])
    · exact h.blamed pre b post (List.cons.inj heq).2 hb
  ends := h.ends.cons hrejected

end Tried

theorem run_backoff {attempts : ℕ} {τ : List (Event Scsi)} {r : Except ScsiError Unit}
    (h : Run (backoff attempts) τ r) : r = .ok () ∧ τ = pauseBefore attempts ∨
      ∃ e, 0 < attempts ∧ r = .error e ∧ τ = [backoffPause (.error e)] := by
  unfold backoff at h
  unfold pauseBefore
  split_ifs at h ⊢ with hn
  · obtain rfl := run_ask_iff.mp h
    rcases r with e | ⟨⟩
    · exact .inr ⟨e, hn, rfl, rfl⟩
    · exact .inl ⟨rfl, rfl⟩
  · obtain ⟨rfl, rfl⟩ := run_pure_iff.mp h
    exact .inl ⟨rfl, rfl⟩

theorem run_certLoop_tried {certs : List HostCert} {attempts : ℕ} {dead : Bool}
    {τ : List (Event Scsi)} {r : Except UnlockError CertHandshake}
    (h : Run (certLoop c fuel la allowP256 certs attempts dead) τ r) :
    ∃ as, Tried c fuel la allowP256 certs attempts dead τ r as := by
  induction certs generalizing attempts dead τ with
  | nil => exact ⟨[], .exhausted h⟩
  | cons hc certs ih =>
    unfold certLoop at h
    dsimp only at h
    split_ifs at h with hcap hdead hunusable
    · exact ⟨[], .exhausted h⟩
    · obtain ⟨as, has⟩ := ih h
      exact ⟨as, has.skip⟩
    · obtain ⟨as, has⟩ := ih h
      exact ⟨as, has.skip⟩
    obtain ⟨τ₁, b, τ₂, rfl, h₁, h₂⟩ := run_bind_iff.mp h
    rcases run_backoff h₁ with ⟨rfl, rfl⟩ | ⟨e, hpos, rfl, rfl⟩
    · obtain ⟨τ₃, o, τ₄, rfl, h₃, h₄⟩ := run_bind_iff.mp h₂
      have hany : (v1CredsUsable hc && !dead) = true ∨ v2CredsUsable hc allowP256 = true := by
        cases dead <;> cases hv2 : v2CredsUsable hc allowP256 <;> simp_all
      obtain ⟨a, ha, rfl, hsound, hv1, hverdict, hblamed⟩ := run_attemptOneCert
        (fun hv1 => (Bool.and_eq_true_iff.mp hv1).1) hany h₃
      have hspared : dead = true → a.v1 = none := by
        rintro rfl
        simpa using hv1
      rcases o with ch | _ | _ | ⟨code, dead'⟩
      · obtain ⟨rfl, rfl⟩ := run_pure_iff.mp h₄
        rw [List.append_nil]
        exact ⟨[a], .conclude ha hsound (by omega) hspared (by rw [← hverdict]; rfl)⟩
      · obtain ⟨rfl, rfl⟩ := run_pure_iff.mp h₄
        rw [List.append_nil]
        exact ⟨[a], .conclude ha hsound (by omega) hspared (by rw [← hverdict]; rfl)⟩
      · obtain ⟨rfl, rfl⟩ := run_pure_iff.mp h₄
        rw [List.append_nil]
        exact ⟨[a], .conclude ha hsound (by omega) hspared (by rw [← hverdict]; rfl)⟩
      · obtain rfl := hblamed code dead' rfl
        obtain ⟨as, has⟩ := ih h₄
        rw [← List.append_assoc]
        exact ⟨a :: as, .cons ha hsound (by omega) hspared hverdict.symm has⟩
    · obtain ⟨rfl, rfl⟩ := run_pure_iff.mp h₂
      exact ⟨[], .nil (.stopped (List.forall_mem_nil _) (by simpa using hpos) e rfl rfl)⟩

/-! ## The handshake -/

structure AttemptDiscipline (c : Crypto) (fuel : ℕ) (la : Anchors) (allowP256 : Bool)
    (hostCerts : List HostCert) (τ : List (Event Scsi)) (r : Except UnlockError CertHandshake)
    (as : List Attempt) : Prop where
  /-- The attempts are made with entries of the list, in its order, and there are at most three. -/
  entries : (as.map Attempt.hc).Sublist hostCerts
  capped : as.length ≤ 3
  /-- Nothing but the attempts and the pauses between them; the last pause may be refused. -/
  trace : τ = spaced 0 as ∨ as ≠ [] ∧ ∃ e, τ = spaced 0 as ++ [backoffPause (.error e)]
  /-- Each attempt consists of at most one authentication of each kind, the 1.0 one first. The
  P-256 one is run with both of its credentials whenever it is the entry's turn for it. -/
  sound : ∀ a ∈ as, a.Sound c fuel la allowP256
  /-- After a failure that blames the drive's certificate no 1.0 authentication is run. -/
  blamed : ∀ pre a post, as = pre ++ a :: post → a.blamesDrive = true → ∀ b ∈ post, b.v1 = none
  noUsable : r = .error .noUsableHostCert ↔ as = []
  rejected : r = .error .handshakeRejected ↔
    as ≠ [] ∧ (∀ a ∈ as, a.verdict = .rejected) ∧ ∀ e ∈ τ, ¬ PauseRefused e

theorem not_pauseRefused_spaced {as : List Attempt} : ∀ {attempts : ℕ},
    (∀ a ∈ as, a.Sound c fuel la allowP256) → ∀ e ∈ spaced attempts as, ¬ PauseRefused e := by
  induction as with
  | nil => exact fun _ => List.forall_mem_nil _
  | cons a as ih =>
    intro attempts h
    rw [List.forall_mem_cons] at h
    refine List.forall_mem_append.mpr ⟨List.forall_mem_append.mpr ⟨?_, ?_⟩, ih h.2⟩
    · unfold pauseBefore
      split_ifs
      · intro e he hp
        obtain rfl := List.mem_singleton.mp he
        obtain ⟨err, herr⟩ := hp
        cases herr
      · exact List.forall_mem_nil _
    · rintro ⟨o, r⟩ he hp
      cases o with
      | pause ms => exact h.1.calls _ he
      | _ => exact hp

namespace Ends

variable {as : List Attempt} {τ : List (Event Scsi)} {r : Except UnlockError CertHandshake}

theorem trace (h : Ends 0 as τ r) :
    τ = spaced 0 as ∨ as ≠ [] ∧ ∃ e, τ = spaced 0 as ++ [backoffPause (.error e)] := by
  cases h with
  | exhausted _ hτ _ => exact .inl hτ
  | stopped _ hpos e hτ _ =>
    refine .inr ⟨?_, e, hτ⟩
    rintro rfl
    simp at hpos
  | concluded _ _ _ _ hτ _ => exact .inl hτ

theorem ne_certsExhausted {v : Verdict} (h : v.result = some r) (attempts : ℕ) :
    r ≠ .error (certsExhausted attempts) := by
  rintro rfl
  rcases certsExhausted_mem attempts with hc | hc <;> rw [hc] at h <;> cases v <;> cases h

theorem noUsable_iff (h : Ends 0 as τ r) : r = .error .noUsableHostCert ↔ as = [] := by
  cases h with
  | exhausted _ _ hr =>
    rw [hr, ← List.length_eq_zero_iff, certsExhausted]
    split_ifs with hn
    · exact iff_of_true rfl (by omega)
    · exact iff_of_false nofun (by omega)
  | stopped _ hpos _ _ hr =>
    rw [hr, ← List.length_eq_zero_iff]
    exact iff_of_false nofun (by omega)
  | concluded init a heq _ _ hr =>
    exact iff_of_false (ne_certsExhausted hr 0) (by simp [heq])

theorem rejected_iff (h : Ends 0 as τ r) (hspaced : ∀ e ∈ spaced 0 as, ¬ PauseRefused e) :
    r = .error .handshakeRejected ↔
      as ≠ [] ∧ (∀ a ∈ as, a.verdict = .rejected) ∧ ∀ e ∈ τ, ¬ PauseRefused e := by
  cases h with
  | exhausted hrejected hτ hr =>
    rw [hr, ← List.length_pos_iff, certsExhausted]
    split_ifs with hn
    · exact iff_of_false nofun fun h => by omega
    · exact iff_of_true rfl ⟨by omega, hrejected, hτ ▸ hspaced⟩
  | stopped hrejected hpos e hτ hr =>
    rw [hr]
    exact iff_of_false nofun fun h => h.2.2 (backoffPause (.error e)) (by simp [hτ]) ⟨e, rfl⟩
  | concluded init a heq hrejected hτ hr =>
    refine iff_of_false (ne_certsExhausted hr 1) fun h => ?_
    rw [h.2.1 a (by simp [heq])] at hr
    cases hr

/-- A refused pause ends the loop with `Transport`, whatever the attempts before it came to. -/
theorem of_pauseRefused (h : Ends 0 as τ r) (hspaced : ∀ e ∈ spaced 0 as, ¬ PauseRefused e)
    (hrefused : ∃ e ∈ τ, PauseRefused e) :
    as ≠ [] ∧ (∀ a ∈ as, a.verdict = .rejected) ∧ r = .error .transport := by
  obtain ⟨e, hmem, hp⟩ := hrefused
  cases h with
  | exhausted _ hτ _ => exact (hspaced e (hτ ▸ hmem) hp).elim
  | stopped hrejected hpos _ _ hr =>
    refine ⟨?_, hrejected, hr⟩
    rintro rfl
    simp at hpos
  | concluded _ _ _ _ hτ _ => exact (hspaced e (hτ ▸ hmem) hp).elim

end Ends

/-- Every run of the handshake is a list of disciplined attempts. -/
theorem runCertHandshake_attempts (hostCerts : List HostCert) (τ : List (Event Scsi))
    (r : Except UnlockError CertHandshake)
    (h : Run (runCertHandshakeWithAnchors c fuel hostCerts la allowP256) τ r) :
    ∃ as, AttemptDiscipline c fuel la allowP256 hostCerts τ r as := by
  obtain ⟨as, has⟩ := run_certLoop_tried h
  refine ⟨as, has.entries, ?_, has.ends.trace, has.sound, has.blamed, has.ends.noUsable_iff,
    has.ends.rejected_iff (not_pauseRefused_spaced has.sound)⟩
  rcases eq_or_ne as [] with rfl | hne
  · exact Nat.zero_le _
  · have := has.capped hne
    unfold maxCertAttempts at this
    omega

/-! ## A refused pause -/

/-- A drive that rejects every command, behind a host that grants no pause. -/
def impatientDrive : Handler Scsi Unit
  | .execute _ _ data _, s =>
    (⟨.error ⟨0x02, some (Vector.replicate 32 0)⟩, Vector.replicate data.length 0⟩, s)
  | .pause _, s => (.error ⟨0xFF, none⟩, s)
  | o, s => refusingDrive o s

def isRefusedPause : Event Scsi → Bool
  | ⟨.pause _, .error _⟩ => true
  | _ => false

theorem pauseRefused_of_isRefusedPause {e : Event Scsi} (h : isRefusedPause e = true) :
    PauseRefused e := by
  unfold isRefusedPause at h
  split at h
  · exact ⟨_, rfl⟩
  · cases h

theorem exec_impatientDrive : (exec impatientDrive
    (runCertHandshakeWithAnchors .unused 1 [unitCert, unitCert] .zero false) ()).any
      (fun x => x.2.1.any isRefusedPause) = true := by decide +kernel

theorem runCertHandshake_attempts_impatient : ∃ τ r as,
    Run (runCertHandshakeWithAnchors .unused 1 [unitCert, unitCert] .zero false) τ r ∧
      AttemptDiscipline .unused 1 .zero false [unitCert, unitCert] τ r as := by
  obtain ⟨r, τ, _, hrun, -⟩ := exists_run_of_any exec_impatientDrive
  obtain ⟨as, has⟩ := runCertHandshake_attempts [unitCert, unitCert] τ r hrun
  exact ⟨τ, r, as, hrun, has⟩

/-- Against that drive every certificate that reaches the drive is rejected, and still the result
is not `HandshakeRejected`. -/
theorem runCertHandshake_not_rejected_impatient : ∃ τ r as,
    Run (runCertHandshakeWithAnchors .unused 1 [unitCert, unitCert] .zero false) τ r ∧
      Tried .unused 1 .zero false [unitCert, unitCert] 0 false τ r as ∧ as ≠ [] ∧
      (∀ a ∈ as, a.verdict = .rejected) ∧ r ≠ .error .handshakeRejected := by
  obtain ⟨r, τ, _, hrun, hany⟩ := exists_run_of_any exec_impatientDrive
  obtain ⟨e, (hmem : e ∈ τ), hpause⟩ := List.any_eq_true.mp hany
  obtain ⟨as, has⟩ := run_certLoop_tried hrun
  obtain ⟨hne, hrejected, rfl⟩ := has.ends.of_pauseRefused (not_pauseRefused_spaced has.sound)
    ⟨e, hmem, pauseRefused_of_isRefusedPause hpause⟩
  exact ⟨τ, _, as, hrun, has, hne, hrejected, nofun⟩

end FreemkvUnlock.Aacs
