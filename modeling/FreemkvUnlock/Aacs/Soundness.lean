import FreemkvUnlock.Aacs.Completeness

/-! # Soundness of the handshake

A handshake succeeds only when, within its last session, the drive presented a certificate of
the right type under the trust anchor, signed the host's nonce and its own point with that
certificate's key, and authenticated the Volume ID under the agreed bus key.
-/

namespace FreemkvUnlock.Aacs

open Interaction Bytes

structure AkeScheme where
  domain : EcDomain
  hash : List UInt8 → List UInt8
  certType : UInt8
  certLen : ℕ
  /-- The certificate's signature under the trust anchor. -/
  certVerifies : List UInt8 → Bool
  /-- The public key a certificate carries. -/
  certKey : List UInt8 → List UInt8 × List UInt8

/-- AACS 1.0: 92-byte certificates of type 0x01 on the 160-bit curve. -/
def v1Scheme (c : Crypto) (la : Anchors) : AkeScheme where
  domain := aacs1
  hash := c.sha1
  certType := 0x01
  certLen := 92
  certVerifies cert := verifyCertWithAnchor c cert la.v1X la.v1Y
  certKey cert := ((certPubKey cert).1.toList, (certPubKey cert).2.toList)

/-- AACS 2.0: 132-byte certificates of type 0x11 on P-256. -/
def p256Scheme (c : Crypto) (la : Anchors) : AkeScheme where
  domain := p256
  hash := c.sha256
  certType := 0x11
  certLen := 132
  certVerifies cert := verifyCertP256 c cert la.v2X la.v2Y
  certKey cert := ((certPubKeyP256 cert).1.toList, (certPubKeyP256 cert).2.toList)

/-- The drive's proof of identity in a session: its replies, each GOOD and not short, with every
check they passed. -/
structure Authentic (c : Crypto) (S : AkeScheme) (agid : UInt8) (hostCert : List UInt8)
    (vid : Vector UInt8 16) (τ : List (Event Scsi)) where
  sendCert : Event Scsi
  readCert : Event Scsi
  readKey : Event Scsi
  sendKey : Event Scsi
  readVid : Event Scsi
  hostNonce : List UInt8
  header : List UInt8
  certReply : List UInt8
  keyReply : List UInt8
  keyHeader : List UInt8
  hostSig : List UInt8
  hostKey : ℕ
  busKey : Vector UInt8 16
  /-- The exchanges happen in this order, all within the trace. -/
  order : [sendCert, readCert, readKey, sendKey, readVid].Sublist τ
  header_length : header.length = 4
  nonce_length : hostNonce.length = 20
  /-- The host's nonce goes out with its certificate. -/
  sendCert_good : GoodWrite (cdbSendKey agid 0x01 (UInt16.ofNat (24 + S.certLen))).toList
    (header ++ hostNonce ++ hostCert.take S.certLen) sendCert
  readCert_good : GoodRead (cdbReportKey agid 0x01 (UInt16.ofNat (24 + S.certLen))).toList
    (24 + S.certLen) certReply readCert
  cert_type : (certReply.extract 24 (24 + S.certLen)).getD 0 0 = S.certType
  cert_verified : S.certVerifies (certReply.extract 24 (24 + S.certLen)) = true
  readKey_good : GoodRead (cdbReportKey agid 0x02 (UInt16.ofNat (4 + 4 * S.domain.width))).toList
    (4 + 4 * S.domain.width) keyReply readKey
  /-- The drive's point is in the field and on the curve. -/
  point_onCurve : S.domain.onCurve (fromBytesBe (keyReply.extract 4 (4 + S.domain.width)))
    (fromBytesBe (keyReply.extract (4 + S.domain.width) (4 + 2 * S.domain.width))) = true
  /-- The drive signed this session's nonce with its point. -/
  point_signed : S.domain.verify S.hash (S.certKey (certReply.extract 24 (24 + S.certLen))).1
    (S.certKey (certReply.extract 24 (24 + S.certLen))).2
    (keyReply.extract (4 + 2 * S.domain.width) (4 + 3 * S.domain.width))
    (keyReply.extract (4 + 3 * S.domain.width) (4 + 4 * S.domain.width))
    (hostNonce ++ keyReply.extract 4 (4 + 2 * S.domain.width)) = true
  hostKey_range : hostKey ≠ 0 ∧ hostKey < S.domain.n
  /-- The host's own point, the one its bus key belongs to. -/
  sendKey_good : GoodWrite
    (cdbSendKey agid 0x02 (UInt16.ofNat (4 + 4 * S.domain.width))).toList
    (keyHeader ++ (S.domain.encode (S.domain.mul hostKey S.domain.g).x).toList ++
      (S.domain.encode (S.domain.mul hostKey S.domain.g).y).toList ++ hostSig) sendKey
  busKey_eq : S.domain.busKey (S.domain.encode hostKey).toList
    (keyReply.extract 4 (4 + S.domain.width))
    (keyReply.extract (4 + S.domain.width) (4 + 2 * S.domain.width)) = some busKey
  vid_authentic : VidReply c agid busKey vid readVid

/-! ## From transcripts to proofs of identity -/

variable {c : Crypto} {fuel : ℕ} {la : Anchors} {agid : UInt8} {vid : Vector UInt8 16}

theorem onCurve_of_busKey {E : EcDomain} {hostPriv x y : List UInt8} {bk : Vector UInt8 16}
    (h : E.busKey hostPriv x y = some bk) : E.onCurve (fromBytesBe x) (fromBytesBe y) = true := by
  unfold EcDomain.busKey at h
  by_contra hc
  simp [hc] at h

theorem checkDriveCert_ok {cert : List UInt8} (h : checkDriveCert c cert la = .ok ()) :
    cert.getD 0 0 = 0x01 ∧ verifyCertWithAnchor c cert la.v1X la.v1Y = true := by
  unfold checkDriveCert at h
  split_ifs at h with h₁ h₂
  exact ⟨h₁, h₂⟩

theorem checkDriveCertP256_ok {cert : List UInt8} (h : checkDriveCertP256 c cert la = .ok ()) :
    cert.getD 0 0 = 0x11 ∧ verifyCertP256 c cert la.v2X la.v2Y = true := by
  unfold checkDriveCertP256 at h
  split_ifs at h with h₁ h₂
  exact ⟨not_not.mp h₁, h₂⟩

/-- Exchanges of a session stay in order when random draws stand between them. -/
theorem exchanges_sublist {I : Interface} {e₀ e₁ e₂ e₃ e₄ e₅ : Event I}
    (δ δ' ρ : List (Event I)) : [e₁, e₂, e₃, e₄, e₅].Sublist
      (e₀ :: (δ ++ e₁ :: e₂ :: e₃ :: (δ' ++ [e₄])) ++ e₅ :: ρ) := by
  have hδ : ∀ (σ l : List (Event I)), l.Sublist (σ ++ l) := List.sublist_append_right
  have h₄ : [e₄, e₅].Sublist (δ' ++ e₄ :: e₅ :: ρ) :=
    (((List.nil_sublist ρ).cons_cons e₅).cons_cons e₄).trans (hδ δ' _)
  have h₁ := (((h₄.cons_cons e₃).cons_cons e₂).cons_cons e₁).trans (hδ δ _)
  simpa using h₁.cons e₀

/-- A completed 1.0 session followed by its Volume ID reply proves the drive's identity. -/
theorem V1Transcript.authentic {k : Vector UInt8 20} {cert : List UInt8}
    (t : V1Transcript c fuel agid k cert la) {e : Event Scsi} {ρ : List (Event Scsi)}
    (he : VidReply c agid t.busKey vid e) :
    Nonempty (Authentic c (v1Scheme c la) agid cert vid (t.events ++ e :: ρ)) := by
  obtain ⟨htype, hcert⟩ := checkDriveCert_ok t.cert_ok
  obtain ⟨d, hd, hkey, hx, hy⟩ := EcDomain.run_generateKeyPair t.key_run
  have hlen := t.readKey_good.length
  have hsig : ecdsaVerify c _ _ _ _ _ = true := t.key_verified
  unfold ecdsaVerify at hsig
  rw [take_extract _ 44 84 20 (by omega), extract_extract _ 44 84 20 40 (by omega),
    toList_copyFromSlice_extract rfl (by omega), toList_copyFromSlice_extract rfl (by omega)]
    at hsig
  have hbus := t.busKey_eq
  unfold computeBusKey at hbus
  rw [take_extract _ 4 44 20 (by omega), extract_extract _ 4 44 20 40 (by omega),
    toList_copyFromSlice_extract rfl (by omega), toList_copyFromSlice_extract rfl (by omega),
    hkey] at hbus
  have hsend := t.sendKey_good
  rw [hx, hy, List.append_assoc] at hsend
  exact ⟨{
    sendCert := t.sendCert, readCert := t.readCert, readKey := t.readKey, sendKey := t.sendKey
    readVid := e, hostNonce := t.nonce.toList, header := [0x00, 0x72, 0x00, 0x00]
    certReply := t.certReply, keyReply := t.keyReply, keyHeader := [0x00, 0x52, 0x00, 0x00]
    hostSig := t.sig.1.toList ++ t.sig.2.toList, hostKey := d, busKey := t.busKey
    order := exchanges_sublist t.keyDraws t.signDraws ρ
    header_length := rfl
    nonce_length := by simp
    sendCert_good := t.sendCert_good
    readCert_good := t.readCert_good
    cert_type := htype
    cert_verified := hcert
    readKey_good := t.readKey_good
    point_onCurve := onCurve_of_busKey hbus
    point_signed := hsig
    hostKey_range := hd
    sendKey_good := hsend
    busKey_eq := hbus
    vid_authentic := he }⟩

theorem P256Transcript.authentic {k : Vector UInt8 32} {cert : List UInt8}
    (t : P256Transcript c fuel agid k cert la) {e : Event Scsi} {ρ : List (Event Scsi)}
    (he : VidReply c agid t.busKey vid e) :
    Nonempty (Authentic c (p256Scheme c la) agid cert vid (t.events ++ e :: ρ)) := by
  obtain ⟨htype, hcert⟩ := checkDriveCertP256_ok t.cert_ok
  obtain ⟨d, hd, hkey, hx, hy⟩ := EcDomain.run_generateKeyPair t.key_run
  have hsig : ecdsaVerifyP256 c _ _ _ _ _ = true := t.key_verified
  unfold ecdsaVerifyP256 at hsig
  rw [List.append_assoc, extract_append_extract _ (by omega) (by omega)] at hsig
  have hbus := t.busKey_eq
  unfold computeBusKeyP256 at hbus
  rw [hkey] at hbus
  have hsend := t.sendKey_good
  rw [hx, hy, List.append_assoc] at hsend
  exact ⟨{
    sendCert := t.sendCert, readCert := t.readCert, readKey := t.readKey, sendKey := t.sendKey
    readVid := e, hostNonce := t.nonce.toList, header := [0x00, 0x9a, 0x00, 0x00]
    certReply := t.certReply, keyReply := t.keyReply, keyHeader := [0x00, 0x82, 0x00, 0x00]
    hostSig := t.sig.1.toList ++ t.sig.2.toList, hostKey := d, busKey := t.busKey
    order := exchanges_sublist t.keyDraws t.signDraws ρ
    header_length := rfl
    nonce_length := by simp
    sendCert_good := t.sendCert_good
    readCert_good := t.readCert_good
    cert_type := htype
    cert_verified := hcert
    readKey_good := t.readKey_good
    point_onCurve := onCurve_of_busKey hbus
    point_signed := hsig
    hostKey_range := hd
    sendKey_good := hsend
    busKey_eq := hbus
    vid_authentic := he }⟩

/-! ## The last session -/

/-- The commands after the last accepted allocation of a trace. -/
def LastSession (agid : UInt8) (post τ : List (Event Scsi)) : Prop :=
  ∃ pre alloc, τ = pre ++ alloc :: post ∧ grantedAgid alloc = some agid ∧
    ∀ e ∈ post, grantedAgid e = none

theorem LastSession.prepend {post τ : List (Event Scsi)} (h : LastSession agid post τ)
    (ρ : List (Event Scsi)) : LastSession agid post (ρ ++ τ) := by
  obtain ⟨pre, alloc, rfl, ha, hpost⟩ := h
  exact ⟨ρ ++ pre, alloc, by simp, ha, hpost⟩

variable {τ : List (Event Scsi)} {ch : CertHandshake} {hc : HostCert}

theorem run_finishAuth_ok {auth : AacsAuth} (hlt : auth.agid < 4)
    (h : Run (finishAuth c (agidGuard auth.agid) auth).run τ (.ok ch)) :
    ∃ e ρ, τ = e :: ρ ∧ VidReply c auth.agid auth.busKey ch.volumeId e ∧
      ∀ e ∈ τ, grantedAgid e = none := by
  obtain ⟨τ₁, o, τ₂, rfl, h₁, k₁⟩ := run_bind_iff.mp h
  obtain ⟨τ₃, _, τ₄, rfl, h₂, k₂⟩ := run_bind_iff.mp k₁
  obtain ⟨rfl, rfl⟩ := run_pure_iff.mp k₂
  obtain ⟨rel, rfl, hrel⟩ := run_drop h₂
  have hin := issues_finishReads hlt h₁
  obtain ⟨e, ρ, rfl, hvid⟩ := run_finishReads_ok h₁
  refine ⟨e, ρ ++ [rel], by simp, hvid, fun e' he' => ?_⟩
  rcases List.mem_append.mp he' with he' | he'
  · exact grantedAgid_of_inSession (hin e' he')
  · rw [List.append_nil, List.mem_singleton] at he'
    exact he' ▸ agidSpans.opens_of_closes hrel

theorem HeldRun.lastSession {ε : Type} {authenticate : UInt8 → Fallible Scsi ε AacsAuth}
    {auth : AacsAuth} {guard : AgidGuard} {τ₁ τ₂ : List (Event Scsi)}
    (hs : ∀ agid < 4, Issues (InSession agid) (authenticate agid).run)
    (ha : ∀ {agid body}, Run (authenticate agid).run body (.ok auth) → auth.agid = agid)
    (h : HeldRun authenticate auth guard τ₁)
    (hf : Run (finishAuth c guard auth).run τ₂ (.ok ch)) :
    ∃ body e ρ, Run (authenticate auth.agid).run body (.ok auth) ∧
      VidReply c auth.agid auth.busKey ch.volumeId e ∧
      LastSession auth.agid (body ++ e :: ρ) (τ₁ ++ τ₂) := by
  obtain ⟨agid, pre, alloc, body, hlt, rfl, -, hgrant, hrun, rfl⟩ := h
  obtain rfl := ha hrun
  obtain ⟨e, ρ, rfl, hvid, hnone⟩ := run_finishAuth_ok hlt hf
  refine ⟨body, e, ρ, hrun, hvid, pre, alloc, by simp, hgrant, fun e' he' => ?_⟩
  rcases List.mem_append.mp he' with he' | he'
  · exact grantedAgid_of_inSession (hs _ hlt hrun e' he')
  · exact hnone e' he'

theorem run_attemptV1_ok {hasV2 : Bool}
    (h : Run (attemptV1 c fuel hc la hasV2) τ (.done (.ok ch))) :
    ∃ agid post, LastSession agid post τ ∧
      Nonempty (Authentic c (v1Scheme c la) agid hc.certificate ch.volumeId post) := by
  obtain ⟨τ₁, r, τ₂, rfl, h₁, k₁⟩ := run_bind_iff.mp h
  rcases r with f | ⟨auth, guard⟩
  · -- a failed authentication never yields a handshake
    have hf := (run_pure_iff.mp k₁).2
    unfold V1Step.ofFail at hf
    split_ifs at hf <;> cases hf
  · obtain ⟨r, k₁, hr⟩ := run_map_iff.mp k₁
    obtain rfl : r = .ok ch := by
      rcases r with (_ | _ | _) | ch'
      · cases hr
      · cases hasV2 <;> cases hr
      · cases hr
      · cases hr; rfl
    obtain ⟨body, e, ρ, hbody, hvid, hlast⟩ := ((run_aacs1Ake h₁).1 auth guard rfl).lastSession
      (fun agid hlt => issues_aacsAuthenticateWithAgid hlt _ _)
      (fun hb => by obtain ⟨t, -, rfl⟩ := V1Transcript.of_run hb; rfl) k₁
    obtain ⟨t, rfl, hauth⟩ := V1Transcript.of_run hbody
    exact ⟨_, _, hlast, t.authentic (by rw [hauth] at hvid; exact hvid)⟩

theorem run_attemptP256_ok {dead : Bool}
    (h : Run (attemptP256 c fuel hc la dead) τ (.ok ch)) :
    ∃ cert, hc.certificateV2 = some cert ∧ ∃ agid post, LastSession agid post τ ∧
      Nonempty (Authentic c (p256Scheme c la) agid cert ch.volumeId post) := by
  unfold attemptP256 at h
  split at h
  · rename_i k cert hk hcert
    obtain ⟨τ₁, r, τ₂, rfl, h₁, k₁⟩ := run_bind_iff.mp h
    rcases r with f | ⟨auth, guard⟩
    · have hf := (run_pure_iff.mp k₁).2
      unfold CertOutcome.ofFail at hf
      split_ifs at hf
    · obtain ⟨r, k₁, hr⟩ := run_map_iff.mp k₁
      obtain rfl : r = .ok ch := by
        rcases r with (_ | _ | _) | ch' <;> cases hr
        rfl
      obtain ⟨body, e, ρ, hbody, hvid, hlast⟩ :=
        ((run_aacs2AuthenticateP256WithAnchor h₁).1 auth guard rfl).lastSession
          (fun agid hlt => issues_aacs2AuthenticateP256WithAgid hlt _ _)
          (fun hb => by obtain ⟨t, -, rfl⟩ := P256Transcript.of_run hb; rfl) k₁
      obtain ⟨t, rfl, hauth⟩ := P256Transcript.of_run hbody
      exact ⟨cert, hcert, _, _, hlast, t.authentic (by rw [hauth] at hvid; exact hvid)⟩
  · cases (run_pure_iff.mp h).2

/-! ## The certificate loop -/

/-- Reaching P-256 within an attempt takes the `hasV2` flag. -/
theorem run_attemptV1_fallThrough {hasV2 dead : Bool}
    (h : Run (attemptV1 c fuel hc la hasV2) τ (.fallThrough dead)) : hasV2 = true := by
  obtain ⟨τ₁, r, τ₂, rfl, h₁, k₁⟩ := run_bind_iff.mp h
  cases hasV2 with
  | true => rfl
  | false =>
    rcases r with f | ⟨auth, guard⟩
    · have hf := (run_pure_iff.mp k₁).2
      simp only [V1Step.ofFail, Bool.false_eq_true, if_false] at hf
      split_ifs at hf
    · obtain ⟨r, -, hr⟩ := run_map_iff.mp k₁
      rcases r with (_ | _ | _) | ch' <;> cases hr

/-- What a successful attempt with a certificate shows. -/
def Sound (c : Crypto) (la : Anchors) (hc : HostCert) (allowP256 : Bool)
    (vid : Vector UInt8 16) (agid : UInt8) (post : List (Event Scsi)) : Prop :=
  Nonempty (Authentic c (v1Scheme c la) agid hc.certificate vid post) ∨
    allowP256 = true ∧ v2CredsUsable hc allowP256 = true ∧ ∃ cert, hc.certificateV2 = some cert ∧
      Nonempty (Authentic c (p256Scheme c la) agid cert vid post)

theorem allowP256_of_v2CredsUsable {allowP256 : Bool} (h : v2CredsUsable hc allowP256 = true) :
    allowP256 = true := by
  cases allowP256
  · cases h
  · rfl

theorem run_attemptOneCert_ok {allowP256 tryV1 : Bool}
    (htry : tryV1 = true ∨ v2CredsUsable hc allowP256 = true)
    (h : Run (attemptOneCert c fuel hc la tryV1 (v2CredsUsable hc allowP256)) τ (.ok ch)) :
    ∃ agid post, LastSession agid post τ ∧ Sound c la hc allowP256 ch.volumeId agid post := by
  have hp256 : ∀ {ρ σ : List (Event Scsi)} {dead : Bool}, v2CredsUsable hc allowP256 = true →
      Run (attemptP256 c fuel hc la dead) σ (.ok ch) → ∃ agid post,
        LastSession agid post (ρ ++ σ) ∧ Sound c la hc allowP256 ch.volumeId agid post := by
    intro ρ σ dead hv2 hrun
    obtain ⟨cert, hcert, agid, post, hlast, ha⟩ := run_attemptP256_ok hrun
    exact ⟨agid, post, hlast.prepend ρ,
      .inr ⟨allowP256_of_v2CredsUsable hv2, hv2, cert, hcert, ha⟩⟩
  unfold attemptOneCert at h
  split_ifs at h with h₀
  · obtain ⟨τ₁, r, τ₂, rfl, h₁, k₁⟩ := run_bind_iff.mp h
    rcases r with o | dead
    · obtain ⟨rfl, rfl⟩ := run_pure_iff.mp k₁
      obtain ⟨agid, post, hlast, ha⟩ := run_attemptV1_ok h₁
      exact ⟨agid, post, by simpa using hlast, .inl ha⟩
    · exact hp256 (run_attemptV1_fallThrough h₁) k₁
  · exact hp256 (ρ := []) (htry.resolve_left h₀) h

theorem run_certLoop_ok {certs : List HostCert} {allowP256 : Bool} {attempts : ℕ} {dead : Bool}
    (h : Run (certLoop c fuel la allowP256 certs attempts dead) τ (.ok ch)) :
    ∃ hc ∈ certs, ∃ agid post, LastSession agid post τ ∧
      Sound c la hc allowP256 ch.volumeId agid post := by
  induction certs generalizing τ attempts dead with
  | nil => cases (run_pure_iff.mp h).2
  | cons hc certs ih =>
    have hrest : ∀ {ρ σ : List (Event Scsi)} {n : ℕ} {d : Bool},
        Run (certLoop c fuel la allowP256 certs n d) σ (.ok ch) →
        ∃ hc' ∈ hc :: certs, ∃ agid post, LastSession agid post (ρ ++ σ) ∧
          Sound c la hc' allowP256 ch.volumeId agid post := by
      intro ρ σ n d hσ
      obtain ⟨hc', hmem, agid, post, hlast, hs⟩ := ih hσ
      exact ⟨hc', List.mem_cons_of_mem _ hmem, agid, post, hlast.prepend ρ, hs⟩
    unfold certLoop at h
    dsimp only at h
    split_ifs at h with h₁ h₂ h₃
    · cases (run_pure_iff.mp h).2
    · exact hrest (ρ := []) h
    · exact hrest (ρ := []) h
    · obtain ⟨τ₁, b, τ₂, rfl, hb, k₁⟩ := run_bind_iff.mp h
      rcases b with e | _
      · cases (run_pure_iff.mp k₁).2
      obtain ⟨τ₃, o, τ₄, rfl, ho, k₂⟩ := run_bind_iff.mp k₁
      rcases o with ch' | _ | _ | ⟨code, dead'⟩
      · obtain ⟨rfl, hch⟩ := run_pure_iff.mp k₂
        obtain rfl := Except.ok.inj hch
        have htry : (v1CredsUsable hc && !dead) = true ∨ v2CredsUsable hc allowP256 = true := by
          revert h₂ h₃
          cases v1CredsUsable hc <;> cases v2CredsUsable hc allowP256 <;> cases dead <;> simp
        obtain ⟨agid, post, hlast, hs⟩ := run_attemptOneCert_ok htry ho
        exact ⟨hc, List.mem_cons_self, agid, post, by simpa using hlast.prepend τ₁, hs⟩
      · cases (run_pure_iff.mp k₂).2
      · cases (run_pure_iff.mp k₂).2
      · obtain ⟨hc', hmem, agid, post, hlast, hs⟩ := hrest (ρ := τ₁ ++ τ₃) k₂
        exact ⟨hc', hmem, agid, post, by simpa using hlast, hs⟩

/-- A successful handshake ends in a session whose drive proved its identity under one of the
host's certificates. -/
theorem runCertHandshake_sound {certs : List HostCert} {allowP256 : Bool}
    (h : Run (runCertHandshakeWithAnchors c fuel certs la allowP256) τ (.ok ch)) :
    ∃ hc ∈ certs, ∃ agid post, LastSession agid post τ ∧
      Sound c la hc allowP256 ch.volumeId agid post := run_certLoop_ok h

theorem runCertHandshake_sound_sample : ∃ fuel ch τ,
    Run (runCertHandshakeWithAnchors Sample.crypto fuel [unitCert] Sample.anchors false) τ
      (.ok ch) ∧ ∃ agid post, LastSession agid post τ ∧
        Sound Sample.crypto Sample.anchors unitCert false ch.volumeId agid post := by
  obtain ⟨fuel, ch, τ, hrun⟩ := Sample.exists_run
  obtain ⟨hc, hmem, agid, post, hlast, hs⟩ := runCertHandshake_sound hrun
  obtain rfl := List.mem_singleton.mp hmem
  exact ⟨fuel, ch, τ, hrun, agid, post, hlast, hs⟩

end FreemkvUnlock.Aacs
