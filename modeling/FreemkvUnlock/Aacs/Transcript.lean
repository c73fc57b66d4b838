import FreemkvUnlock.Aacs.Handshake

/-! # Transcripts of completed sessions

What the trace of a session holds when it succeeds: every transfer was answered GOOD and in
full, and the certificate, the points and the Volume ID passed their checks.
-/

namespace FreemkvUnlock.Aacs

open Interaction

variable {c : Crypto} {fuel : ℕ} {τ : List (Event Scsi)}

/-- A read answered GOOD and not short, with the bytes it delivered. -/
def GoodRead (cdb : List UInt8) (len : ℕ) (bytes : List UInt8) (e : Event Scsi) : Prop :=
  ∃ (o : Outcome (List.replicate len (0 : UInt8)).length) (r : ScsiResult),
    e = ⟨.execute cdb .fromDevice (List.replicate len 0) 5000, o⟩ ∧ o.result = .ok r ∧
      r.status = 0 ∧ len ≤ r.bytesTransferred ∧ bytes = o.data.toList

def GoodWrite (cdb data : List UInt8) (e : Event Scsi) : Prop :=
  ∃ (o : Outcome data.length) (r : ScsiResult),
    e = ⟨.execute cdb .toDevice data 5000, o⟩ ∧ o.result = .ok r ∧ r.status = 0

theorem GoodRead.length {cdb bytes : List UInt8} {len : ℕ} {e : Event Scsi}
    (h : GoodRead cdb len bytes e) : bytes.length = len := by
  obtain ⟨o, r, -, -, -, -, rfl⟩ := h
  simp

theorem run_scsiRead_ok {cdb bytes : List UInt8} {len : ℕ}
    (h : Run (scsiRead cdb len).run τ (.ok bytes)) :
    ∃ e, τ = [e] ∧ GoodRead cdb len bytes e := by
  obtain ⟨o, rfl, ho⟩ := run_scsiRead_iff.mp h
  obtain ⟨r, hr, hs, hl, hb⟩ := readReply_ok_iff.mp ho.symm
  exact ⟨_, rfl, o, r, rfl, hr, hs, by simpa using hl, hb⟩

theorem run_scsiWrite_ok {cdb data : List UInt8} {u : Unit}
    (h : Run (scsiWrite cdb data).run τ (.ok u)) : ∃ e, τ = [e] ∧ GoodWrite cdb data e := by
  obtain ⟨o, rfl, ho⟩ := run_scsiWrite_iff.mp h
  obtain ⟨r, hr, hs⟩ := writeReply_ok_iff.mp ho.symm
  exact ⟨_, rfl, o, r, rfl, hr, hs⟩

theorem run_step_ok {α : Type} {fallback : Error} {x : Session α} {a : α}
    (h : Run (step fallback x).run τ (.ok a)) : Run x.run τ (.ok a) := run_mapErr_ok_iff.mp h

/-! ## Authentication -/

/-- The events and values of a completed 1.0 authentication. -/
structure V1Transcript (c : Crypto) (fuel : ℕ) (agid : UInt8) (hostPrivKey : Vector UInt8 20)
    (hostCert : List UInt8) (la : Anchors) where
  nonce : Vector UInt8 20
  hostKey : Vector UInt8 20
  pointX : Vector UInt8 20
  pointY : Vector UInt8 20
  sig : Vector UInt8 20 × Vector UInt8 20
  certReply : List UInt8
  keyReply : List UInt8
  busKey : Vector UInt8 16
  keyDraws : List (Event Scsi)
  signDraws : List (Event Scsi)
  sendCert : Event Scsi
  readCert : Event Scsi
  readKey : Event Scsi
  sendKey : Event Scsi
  key_run : Run (generateHostKeyPair fuel) keyDraws (hostKey, pointX, pointY)
  sendCert_good : GoodWrite (cdbSendKey agid 0x01 116).toList
    ([0x00, 0x72, 0x00, 0x00] ++ nonce.toList ++ hostCert.take 92) sendCert
  readCert_good : GoodRead (cdbReportKey agid 0x01 116).toList 116 certReply readCert
  cert_ok : checkDriveCert c (certReply.extract 24 116) la = .ok ()
  readKey_good : GoodRead (cdbReportKey agid 0x02 84).toList 84 keyReply readKey
  key_verified : ecdsaVerify c (certPubKey (certReply.extract 24 116)).1
    (certPubKey (certReply.extract 24 116)).2 (copyFromSlice 20 ((keyReply.extract 44 84).take 20))
    (copyFromSlice 20 ((keyReply.extract 44 84).extract 20 40))
    (nonce.toList ++ keyReply.extract 4 44) = true
  sign_run : Run (ecdsaSign c fuel hostPrivKey
    (certReply.extract 4 24 ++ pointX.toList ++ pointY.toList)) signDraws sig
  sig_verified : ecdsaVerify c (certPubKey hostCert).1 (certPubKey hostCert).2 sig.1 sig.2
    (certReply.extract 4 24 ++ pointX.toList ++ pointY.toList) = true
  sendKey_good : GoodWrite (cdbSendKey agid 0x02 84).toList
    ([0x00, 0x52, 0x00, 0x00] ++ pointX.toList ++ pointY.toList ++ sig.1.toList ++ sig.2.toList)
    sendKey
  busKey_eq : computeBusKey hostKey (copyFromSlice 20 ((keyReply.extract 4 44).take 20))
    (copyFromSlice 20 ((keyReply.extract 4 44).extract 20 40)) = some busKey

namespace V1Transcript

variable {agid : UInt8} {hostPrivKey : Vector UInt8 20} {hostCert : List UInt8} {la : Anchors}

def events (t : V1Transcript c fuel agid hostPrivKey hostCert la) : List (Event Scsi) :=
  ⟨.fillBytes 20, t.nonce⟩ :: (t.keyDraws ++ t.sendCert :: t.readCert :: t.readKey ::
    (t.signDraws ++ [t.sendKey]))

def auth (t : V1Transcript c fuel agid hostPrivKey hostCert la) : AacsAuth :=
  ⟨t.busKey, agid, none, none, (t.certReply.extract 24 116).getD 1 0 &&& 0x01 ≠ 0⟩

theorem of_run {auth : AacsAuth}
    (h : Run (aacsAuthenticateWithAgid c fuel agid hostPrivKey hostCert la).run τ (.ok auth)) :
    ∃ t : V1Transcript c fuel agid hostPrivKey hostCert la, τ = t.events ∧ auth = t.auth := by
  obtain ⟨_, nonce, _, rfl, h₁, k₁⟩ := run_fallible_bind_ok_iff.mp h
  obtain ⟨_, ⟨key, x, y⟩, _, rfl, h₂, k₂⟩ := run_fallible_bind_ok_iff.mp k₁
  obtain ⟨_, _, _, rfl, h₃, k₃⟩ := run_fallible_bind_ok_iff.mp k₂
  obtain ⟨_, certReply, _, rfl, h₄, k₄⟩ := run_fallible_bind_ok_iff.mp k₃
  obtain ⟨_, _, _, rfl, h₅, k₅⟩ := run_fallible_bind_ok_iff.mp k₄
  obtain ⟨_, keyReply, _, rfl, h₆, k₆⟩ := run_fallible_bind_ok_iff.mp k₅
  obtain ⟨_, _, _, rfl, h₇, k₇⟩ := run_fallible_bind_ok_iff.mp k₆
  obtain ⟨_, ⟨r, s⟩, _, rfl, h₈, k₈⟩ := run_fallible_bind_ok_iff.mp k₇
  obtain ⟨_, _, _, rfl, h₉, k₉⟩ := run_fallible_bind_ok_iff.mp k₈
  obtain ⟨_, _, _, rfl, h₁₀, k₁₀⟩ := run_fallible_bind_ok_iff.mp k₉
  obtain ⟨_, busKey, _, rfl, h₁₁, k₁₁⟩ := run_fallible_bind_ok_iff.mp k₁₀
  have hnonce := run_ask_iff.mp (run_lift_ok_iff.mp h₁)
  obtain ⟨e₁, rfl, g₁⟩ := run_scsiWrite_ok (run_step_ok (run_mapErr_ok_iff.mp h₃))
  obtain ⟨e₂, rfl, g₂⟩ := run_scsiRead_ok (run_step_ok (run_mapErr_ok_iff.mp h₄))
  obtain ⟨rfl, hcert⟩ := run_result_iff.mp h₅
  obtain ⟨e₃, rfl, g₃⟩ := run_scsiRead_ok (run_step_ok (run_mapErr_ok_iff.mp h₆))
  obtain ⟨rfl, hv⟩ := run_ensure_ok_iff.mp h₇
  obtain ⟨rfl, hself⟩ := run_ensure_ok_iff.mp h₉
  obtain ⟨e₄, rfl, g₄⟩ := run_scsiWrite_ok (run_step_ok (run_mapErr_ok_iff.mp h₁₀))
  obtain ⟨rfl, hbus⟩ := run_result_iff.mp h₁₁
  obtain ⟨rfl, ha⟩ := run_fallible_pure_iff.mp k₁₁
  exact ⟨⟨nonce, key, x, y, (r, s), certReply, keyReply, busKey, _, _, e₁, e₂, e₃, e₄,
    run_lift_ok_iff.mp h₂, g₁, g₂, hcert.symm, g₃, hv, run_lift_ok_iff.mp h₈, hself, g₄,
    okOr_eq_ok_iff.mp hbus.symm⟩, by simp [events, hnonce], Except.ok.inj ha⟩

end V1Transcript

structure P256Transcript (c : Crypto) (fuel : ℕ) (agid : UInt8) (hostPrivKey : Vector UInt8 32)
    (hostCert : List UInt8) (la : Anchors) where
  nonce : Vector UInt8 20
  hostKey : Vector UInt8 32
  pointX : Vector UInt8 32
  pointY : Vector UInt8 32
  sig : Vector UInt8 32 × Vector UInt8 32
  certReply : List UInt8
  keyReply : List UInt8
  busKey : Vector UInt8 16
  keyDraws : List (Event Scsi)
  signDraws : List (Event Scsi)
  sendCert : Event Scsi
  readCert : Event Scsi
  readKey : Event Scsi
  sendKey : Event Scsi
  key_run : Run (generateHostKeyPairP256 fuel) keyDraws (hostKey, pointX, pointY)
  sendCert_good : GoodWrite (cdbSendKey agid 0x01 156).toList
    ([0x00, 0x9a, 0x00, 0x00] ++ nonce.toList ++ hostCert.take 132) sendCert
  readCert_good : GoodRead (cdbReportKey agid 0x01 156).toList 156 certReply readCert
  cert_ok : checkDriveCertP256 c (certReply.extract 24 156) la = .ok ()
  readKey_good : GoodRead (cdbReportKey agid 0x02 132).toList 132 keyReply readKey
  key_verified : ecdsaVerifyP256 c (certPubKeyP256 (certReply.extract 24 156)).1.toList
    (certPubKeyP256 (certReply.extract 24 156)).2.toList (keyReply.extract 68 100)
    (keyReply.extract 100 132) (nonce.toList ++ keyReply.extract 4 36 ++ keyReply.extract 36 68) =
      true
  sign_run : Run (ecdsaSignP256 c fuel hostPrivKey
    (certReply.extract 4 24 ++ pointX.toList ++ pointY.toList)) signDraws sig
  sendKey_good : GoodWrite (cdbSendKey agid 0x02 132).toList
    ([0x00, 0x82, 0x00, 0x00] ++ pointX.toList ++ pointY.toList ++ sig.1.toList ++ sig.2.toList)
    sendKey
  busKey_eq : computeBusKeyP256 hostKey (keyReply.extract 4 36) (keyReply.extract 36 68) =
    some busKey

namespace P256Transcript

variable {agid : UInt8} {hostPrivKey : Vector UInt8 32} {hostCert : List UInt8} {la : Anchors}

def events (t : P256Transcript c fuel agid hostPrivKey hostCert la) : List (Event Scsi) :=
  ⟨.fillBytes 20, t.nonce⟩ :: (t.keyDraws ++ t.sendCert :: t.readCert :: t.readKey ::
    (t.signDraws ++ [t.sendKey]))

def auth (t : P256Transcript c fuel agid hostPrivKey hostCert la) : AacsAuth :=
  ⟨t.busKey, agid, none, none, true⟩

theorem of_run {auth : AacsAuth}
    (h : Run (aacs2AuthenticateP256WithAgid c fuel agid hostPrivKey hostCert la).run τ
      (.ok auth)) :
    ∃ t : P256Transcript c fuel agid hostPrivKey hostCert la, τ = t.events ∧ auth = t.auth := by
  obtain ⟨_, nonce, _, rfl, h₁, k₁⟩ := run_fallible_bind_ok_iff.mp h
  obtain ⟨_, ⟨key, x, y⟩, _, rfl, h₂, k₂⟩ := run_fallible_bind_ok_iff.mp k₁
  obtain ⟨_, _, _, rfl, h₃, k₃⟩ := run_fallible_bind_ok_iff.mp k₂
  obtain ⟨_, certReply, _, rfl, h₄, k₄⟩ := run_fallible_bind_ok_iff.mp k₃
  obtain ⟨_, _, _, rfl, h₅, k₅⟩ := run_fallible_bind_ok_iff.mp k₄
  obtain ⟨_, keyReply, _, rfl, h₆, k₆⟩ := run_fallible_bind_ok_iff.mp k₅
  obtain ⟨_, _, _, rfl, h₇, k₇⟩ := run_fallible_bind_ok_iff.mp k₆
  obtain ⟨_, ⟨r, s⟩, _, rfl, h₈, k₈⟩ := run_fallible_bind_ok_iff.mp k₇
  obtain ⟨_, _, _, rfl, h₉, k₉⟩ := run_fallible_bind_ok_iff.mp k₈
  obtain ⟨_, _, _, rfl, h₁₀, k₁₀⟩ := run_fallible_bind_ok_iff.mp k₉
  obtain ⟨_, busKey, _, rfl, h₁₁, k₁₁⟩ := run_fallible_bind_ok_iff.mp k₁₀
  have hnonce := run_ask_iff.mp (run_lift_ok_iff.mp h₁)
  obtain ⟨e₁, rfl, g₁⟩ := run_scsiWrite_ok (run_step_ok h₃)
  obtain ⟨e₂, rfl, g₂⟩ := run_scsiRead_ok (run_step_ok h₄)
  obtain ⟨rfl, hcert⟩ := run_result_iff.mp h₅
  obtain ⟨e₃, rfl, g₃⟩ := run_scsiRead_ok (run_step_ok h₆)
  obtain ⟨rfl, hv⟩ := run_ensure_ok_iff.mp h₇
  obtain ⟨rfl, -⟩ := run_ensure_ok_iff.mp h₉
  obtain ⟨e₄, rfl, g₄⟩ := run_scsiWrite_ok (run_step_ok h₁₀)
  obtain ⟨rfl, hbus⟩ := run_result_iff.mp h₁₁
  obtain ⟨rfl, ha⟩ := run_fallible_pure_iff.mp k₁₁
  exact ⟨⟨nonce, key, x, y, (r, s), certReply, keyReply, busKey, _, _, e₁, e₂, e₃, e₄,
    run_lift_ok_iff.mp h₂, g₁, g₂, hcert.symm, g₃, hv, run_lift_ok_iff.mp h₈, g₄,
    okOr_eq_ok_iff.mp hbus.symm⟩, by simp [events, hnonce], Except.ok.inj ha⟩

end P256Transcript

/-! ## Finishing -/

def VidReply (c : Crypto) (agid : UInt8) (busKey vid : Vector UInt8 16) (e : Event Scsi) : Prop :=
  ∃ reply, GoodRead (cdbReportDiscStructure agid 0x80 36).toList 36 reply e ∧
    vid = copyFromSlice 16 (reply.extract 4 20) ∧
    ctEq16 (aesCmac16 c vid busKey) (copyFromSlice 16 (reply.extract 20 36)) = true

theorem run_readVolumeId_ok {auth auth' : AacsAuth} {vid : Vector UInt8 16}
    (h : Run (readVolumeId c auth).run τ (.ok (vid, auth'))) :
    ∃ e, τ = [e] ∧ VidReply c auth.agid auth.busKey vid e ∧
      auth' = { auth with volumeId := some vid } := by
  obtain ⟨_, reply, _, rfl, h₁, k₁⟩ := run_fallible_bind_ok_iff.mp h
  obtain ⟨_, _, _, rfl, h₂, k₂⟩ := run_fallible_bind_ok_iff.mp k₁
  obtain ⟨e, rfl, g⟩ := run_scsiRead_ok (run_step_ok h₁)
  obtain ⟨rfl, hm⟩ := run_ensure_ok_iff.mp h₂
  obtain ⟨rfl, ha⟩ := run_fallible_pure_iff.mp k₂
  obtain ⟨rfl, rfl⟩ := Prod.mk.inj (Except.ok.inj ha)
  exact ⟨e, rfl, ⟨reply, g, rfl, hm⟩, rfl⟩

theorem run_finishReads_ok {auth : AacsAuth} {ch : CertHandshake}
    (h : Run (finishReads c auth).run τ (.ok ch)) :
    ∃ e τ', τ = e :: τ' ∧ VidReply c auth.agid auth.busKey ch.volumeId e := by
  obtain ⟨_, ⟨vid, auth'⟩, τ', rfl, h₁, k₁⟩ := run_fallible_bind_ok_iff.mp h
  obtain ⟨e, rfl, hvid, -⟩ := run_readVolumeId_ok (run_mapErr_ok_iff.mp h₁)
  refine ⟨e, τ', rfl, ?_⟩
  have hch : ch.volumeId = vid := by
    simp only at k₁
    split_ifs at k₁
    · obtain ⟨_, o, _, -, -, k₂⟩ := run_fallible_bind_ok_iff.mp k₁
      rcases o with e | ⟨⟨rdk, wdk⟩, auth''⟩
      · simp only at k₂
        split_ifs at k₂
        · cases (run_throw_iff.mp k₂).2
        · rw [Except.ok.inj (run_fallible_pure_iff.mp k₂).2]
      · rw [Except.ok.inj (run_fallible_pure_iff.mp k₂).2]
    · rw [Except.ok.inj (run_fallible_pure_iff.mp k₁).2]
  rw [hch]; exact hvid

end FreemkvUnlock.Aacs
