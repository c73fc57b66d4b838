import FreemkvUnlock.Aacs.Commands
import FreemkvUnlock.Unlocker

/-! # The AACS host-certificate handshake

Mutual authentication with the drive in its 1.0 (160-bit) and 2.0 (P-256) forms, the Volume ID
and data-key reads under the bus key, and the loop over host certificates. Rejection-sampling
loops draw at most `fuel` times.
-/

namespace FreemkvUnlock.Aacs

open Interaction

structure AacsAuth where
  busKey : Vector UInt8 16
  agid : UInt8
  volumeId : Option (Vector UInt8 16)
  readDataKey : Option (Vector UInt8 16)
  busEncryptionCapable : Bool

inductive V1Fail
  | driveCert
  | other (e : Error)

def V1Fail.intoError : V1Fail → Error
  | driveCert => .aacsCertVerify
  | other e => e

structure CertHandshake where
  volumeId : Vector UInt8 16
  readDataKey : Option (Vector UInt8 16)
  readDataKeyErr : Option ℕ

structure Anchors where
  v1X : Vector UInt8 20
  v1Y : Vector UInt8 20
  v2X : Vector UInt8 32
  v2Y : Vector UInt8 32

section Sessions

variable (c : Crypto) (fuel : ℕ)

/-- A step whose failure keeps a dead bus and reports anything else as `fallback`. -/
def step (fallback : Error) {α : Type} (x : Session α) : Session α :=
  x.mapErr fun e => handshakeErr e fallback

/-! ## Authentication -/

/-- The type-0x01 gate and the anchor check on a drive certificate. -/
def checkDriveCert (driveCert : List UInt8) (la : Anchors) : Except V1Fail Unit :=
  if driveCert.getD 0 0 = 0x01 then
    if verifyCertWithAnchor c driveCert la.v1X la.v1Y then .ok () else .error .driveCert
  else .error (if driveCert.getD 0 0 = 0x11 then .driveCert else .other .aacsCertVerify)

/-- The authentication's steps with the AGID already allocated. -/
def aacsAuthenticateWithAgid (agid : UInt8) (hostPrivKey : Vector UInt8 20)
    (hostCert : List UInt8) (la : Anchors) : Fallible Scsi V1Fail AacsAuth := do
  let hostNonce ← ExceptT.lift (Scsi.fillBytes 20)
  let (hostKey, hostKeyPointX, hostKeyPointY) ← ExceptT.lift (generateHostKeyPair fuel)
  (step .aacsCertRejected (scsiWrite (cdbSendKey agid 0x01 116).toList
    ([0x00, 0x72, 0x00, 0x00] ++ hostNonce.toList ++ hostCert.take 92))).mapErr .other
  let response ← (step .aacsCertRead
    (scsiRead (cdbReportKey agid 0x01 116).toList 116)).mapErr .other
  let driveNonce := response.extract 4 24
  let driveCert := response.extract 24 116
  Fallible.result (checkDriveCert c driveCert la)
  let response ← (step .aacsKeyRead
    (scsiRead (cdbReportKey agid 0x02 84).toList 84)).mapErr .other
  let driveKeyPoint := response.extract 4 44
  let driveKeySig := response.extract 44 84
  let (drivePubX, drivePubY) := certPubKey driveCert
  Fallible.ensure (ecdsaVerify c drivePubX drivePubY (copyFromSlice 20 (driveKeySig.take 20))
    (copyFromSlice 20 (driveKeySig.extract 20 40)) (hostNonce.toList ++ driveKeyPoint))
    (.other .aacsKeyVerify)
  let signData := driveNonce ++ hostKeyPointX.toList ++ hostKeyPointY.toList
  let (hostSigR, hostSigS) ← ExceptT.lift (ecdsaSign c fuel hostPrivKey signData)
  let (hostPubX, hostPubY) := certPubKey hostCert
  Fallible.ensure (ecdsaVerify c hostPubX hostPubY hostSigR hostSigS signData)
    (.other .aacsHostSignVerify)
  (step .aacsKeyRejected (scsiWrite (cdbSendKey agid 0x02 84).toList
    ([0x00, 0x52, 0x00, 0x00] ++ hostKeyPointX.toList ++ hostKeyPointY.toList ++
      hostSigR.toList ++ hostSigS.toList))).mapErr .other
  let busKey ← Fallible.result (Fallible.okOr
    (computeBusKey hostKey (copyFromSlice 20 (driveKeyPoint.take 20))
      (copyFromSlice 20 (driveKeyPoint.extract 20 40))) (.other .aacsKeyVerify))
  pure ⟨busKey, agid, none, none, driveCert.getD 1 0 &&& 0x01 ≠ 0⟩

/-- The P-256 gate: type 0x11 only, verified under the 2.0 anchor. -/
def checkDriveCertP256 (driveCert : List UInt8) (la : Anchors) : Except Error Unit :=
  if driveCert.getD 0 0 ≠ 0x11 then .error .aacsCertVerify
  else if verifyCertP256 c driveCert la.v2X la.v2Y then .ok () else .error .aacsCertVerify

/-- The P-256 authentication's steps with the AGID already allocated. -/
def aacs2AuthenticateP256WithAgid (agid : UInt8) (hostPrivKey : Vector UInt8 32)
    (hostCert : List UInt8) (la : Anchors) : Session AacsAuth := do
  let hostNonce ← ExceptT.lift (Scsi.fillBytes 20)
  let (hostEphKey, hostEphPubX, hostEphPubY) ← ExceptT.lift (generateHostKeyPairP256 fuel)
  step .aacsCertRejected (scsiWrite (cdbSendKey agid 0x01 156).toList
    ([0x00, 0x9a, 0x00, 0x00] ++ hostNonce.toList ++ hostCert.take 132))
  let response ← step .aacsCertRead (scsiRead (cdbReportKey agid 0x01 156).toList 156)
  let driveNonce := response.extract 4 24
  let driveCert := response.extract 24 156
  Fallible.result (checkDriveCertP256 c driveCert la)
  let response ← step .aacsKeyRead (scsiRead (cdbReportKey agid 0x02 132).toList 132)
  let driveKeyX := response.extract 4 36
  let driveKeyY := response.extract 36 68
  let driveSigR := response.extract 68 100
  let driveSigS := response.extract 100 132
  let (drivePubX, drivePubY) := certPubKeyP256 driveCert
  Fallible.ensure (ecdsaVerifyP256 c drivePubX.toList drivePubY.toList driveSigR driveSigS
    (hostNonce.toList ++ driveKeyX ++ driveKeyY)) .aacsKeyVerify
  let signData := driveNonce ++ hostEphPubX.toList ++ hostEphPubY.toList
  let (hostSigR, hostSigS) ← ExceptT.lift (ecdsaSignP256 c fuel hostPrivKey signData)
  let (hostPubX, hostPubY) := certPubKeyP256 hostCert
  Fallible.ensure (ecdsaVerifyP256 c hostPubX.toList hostPubY.toList hostSigR.toList
    hostSigS.toList signData) .aacsHostSignVerify
  step .aacsKeyRejected (scsiWrite (cdbSendKey agid 0x02 132).toList
    ([0x00, 0x82, 0x00, 0x00] ++ hostEphPubX.toList ++ hostEphPubY.toList ++
      hostSigR.toList ++ hostSigS.toList))
  let busKey ← Fallible.result
    (Fallible.okOr (computeBusKeyP256 hostEphKey driveKeyX driveKeyY) .aacsKeyVerify)
  pure ⟨busKey, agid, none, none, true⟩

/-- Invalidate all four AGIDs; the outcomes are ignored. -/
def invalidateAgids : List UInt8 → Prog Scsi Unit
  | [] => pure ()
  | agid :: agids => do
    let _ ← (scsiRead (cdbReportKey agid 0x3F 2).toList 2).run
    invalidateAgids agids

/-- Allocate an AGID: the top two bits of the reply's last byte. -/
def allocateAgid : Session UInt8 := do
  let response ← step .aacsAgidAlloc (scsiRead (cdbReportKey 0 0x00 8).toList 8)
  pure ((response.getD 7 0 >>> 6) &&& 0x03)

/-- Invalidate all AGIDs, allocate one and authenticate under it. -/
def withAllocatedAgid {ε : Type} (f : Error → ε)
    (authenticate : UInt8 → Fallible Scsi ε AacsAuth) : Fallible Scsi ε (AacsAuth × AgidGuard) := do
  ExceptT.lift (invalidateAgids [0, 1, 2, 3])
  let agid ← allocateAgid.mapErr f
  holding (agidGuard agid) (authenticate agid)

/-- The 1.0 authentication; on success the AGID comes back still held. -/
def aacs1Ake (hostPrivKey : Vector UInt8 20) (hostCert : List UInt8) (la : Anchors) :
    Fallible Scsi V1Fail (AacsAuth × AgidGuard) := do
  Fallible.ensure (92 ≤ hostCert.length) (.other .aacsCertShort)
  withAllocatedAgid .other fun agid =>
    aacsAuthenticateWithAgid c fuel agid hostPrivKey hostCert la

/-- The native AACS 2.0 authentication; on success the AGID comes back still held. -/
def aacs2AuthenticateP256WithAnchor (hostPrivKey : Vector UInt8 32) (hostCert : List UInt8)
    (la : Anchors) : Session (AacsAuth × AgidGuard) := do
  Fallible.ensure (132 ≤ hostCert.length) .aacsCertShort
  withAllocatedAgid id fun agid =>
    aacs2AuthenticateP256WithAgid c fuel agid hostPrivKey hostCert la

/-! ## Volume ID and data keys -/

def readVolumeId (auth : AacsAuth) : Session (Vector UInt8 16 × AacsAuth) := do
  let response ← step .aacsVidRead
    (scsiRead (cdbReportDiscStructure auth.agid 0x80 36).toList 36)
  let vid := copyFromSlice 16 (response.extract 4 20)
  let mac := copyFromSlice 16 (response.extract 20 36)
  Fallible.ensure (ctEq16 (aesCmac16 c vid auth.busKey) mac) .aacsVidMac
  pure (vid, { auth with volumeId := some vid })

/-- Read and decrypt the data keys; an all-zero key block is refused. -/
def readDataKeys (auth : AacsAuth) :
    Session ((Vector UInt8 16 × Vector UInt8 16) × AacsAuth) := do
  let response ← step .aacsDataKey
    (scsiRead (cdbReportDiscStructure auth.agid 0x84 36).toList 36)
  let encRdk := copyFromSlice 16 (response.extract 4 20)
  let encWdk := copyFromSlice 16 (response.extract 20 36)
  Fallible.ensure (¬(encRdk = Vector.replicate 16 0 ∧ encWdk = Vector.replicate 16 0))
    .aacsDataKey
  let readDataKey := aesEcbDecrypt c auth.busKey encRdk
  let writeDataKey := aesEcbDecrypt c auth.busKey encWdk
  pure ((readDataKey, writeDataKey), { auth with readDataKey := some readDataKey })

inductive FinishErr
  | transport
  | vidMac
  | vidUnavailable
  deriving DecidableEq

def FinishErr.ofVidError (e : Error) : FinishErr :=
  if e.isScsiTransportFailure then .transport
  else if e = .aacsVidMac then .vidMac
  else .vidUnavailable

/-- The reads of a completed authentication. -/
def finishReads (auth : AacsAuth) : Fallible Scsi FinishErr CertHandshake := do
  let (volumeId, auth) ← (readVolumeId c auth).mapErr FinishErr.ofVidError
  if auth.busEncryptionCapable then
    match ← ExceptT.lift (readDataKeys c auth).run with
    | .ok ((rdk, _), _) => pure ⟨volumeId, some rdk, none⟩
    | .error e =>
      if e.isScsiTransportFailure then throw .transport
      else pure ⟨volumeId, none, some e.code⟩
  else pure ⟨volumeId, none, none⟩

/-- Read the Volume ID and data keys; the guard is dropped on every exit. -/
def finishAuth (guard : AgidGuard) (auth : AacsAuth) : Fallible Scsi FinishErr CertHandshake :=
  ExceptT.mk do
    let r ← (finishReads c auth).run
    guard.drop
    pure r

/-! ## Host certificates -/

inductive CertOutcome
  | ok (ch : CertHandshake)
  | transport
  | vidUnavailable
  | reject (code : ℕ) (v1DriveDead : Bool)

/-- Length, then private key against certificate: what the 1.0 path checks up front. -/
def v1CredsUsable (hc : HostCert) : Bool :=
  92 ≤ hc.certificate.length && aacs1KeypairMatches hc.privateKey hc.certificate

def v2CredsUsable (hc : HostCert) (allowP256 : Bool) : Bool :=
  allowP256 && hc.privateKeyV2.isSome && hc.certificateV2.any fun cert => 132 ≤ cert.length

def V1Fail.isTransport : V1Fail → Bool
  | driveCert => false
  | other e => e.isScsiTransportFailure

def V1Fail.isDriveCert : V1Fail → Bool
  | driveCert => true
  | other _ => false

/-- How the 1.0 half of an attempt ends: with an outcome, or by falling through to P-256 with
the flag that the drive's own 1.0 certificate failed. -/
inductive V1Step
  | done (o : CertOutcome)
  | fallThrough (v1DriveDead : Bool)

/-- After a completed 1.0 authentication: a failed VID MAC falls through when P-256 is left. -/
def V1Step.ofFinish (hasV2 : Bool) : Except FinishErr CertHandshake → V1Step
  | .ok ch => .done (.ok ch)
  | .error .transport => .done .transport
  | .error .vidMac => if hasV2 then .fallThrough false else .done .vidUnavailable
  | .error .vidUnavailable => .done .vidUnavailable

def V1Step.ofFail (hasV2 : Bool) (f : V1Fail) : V1Step :=
  if f.isTransport then .done .transport
  else if hasV2 then .fallThrough f.isDriveCert
  else .done (.reject f.intoError.code f.isDriveCert)

/-- The 1.0 half of one certificate's attempt. -/
def attemptV1 (hc : HostCert) (la : Anchors) (hasV2 : Bool) : Prog Scsi V1Step := do
  match ← (aacs1Ake c fuel hc.privateKey hc.certificate la).run with
  | .ok (auth, guard) => V1Step.ofFinish hasV2 <$> (finishAuth c guard auth).run
  | .error f => pure (V1Step.ofFail hasV2 f)

def CertOutcome.ofFinish : Except FinishErr CertHandshake → CertOutcome
  | .ok ch => .ok ch
  | .error .transport => .transport
  | .error _ => .vidUnavailable

def CertOutcome.ofFail (v1DriveDead : Bool) (e : Error) : CertOutcome :=
  if e.isScsiTransportFailure then .transport else .reject e.code v1DriveDead

/-- The P-256 half of one certificate's attempt. -/
def attemptP256 (hc : HostCert) (la : Anchors) (v1DriveDead : Bool) : Prog Scsi CertOutcome :=
  match hc.privateKeyV2, hc.certificateV2 with
  | some k, some cert => do
    match ← (aacs2AuthenticateP256WithAnchor c fuel k cert la).run with
    | .ok (auth, guard) => CertOutcome.ofFinish <$> (finishAuth c guard auth).run
    | .error e => pure (CertOutcome.ofFail v1DriveDead e)
  | _, _ => pure .vidUnavailable

/-- One certificate's round trip: 1.0 first when `tryV1`, then P-256 when `hasV2` and the 1.0
authentication was skipped, rejected, or ended in a failed VID MAC. -/
def attemptOneCert (hc : HostCert) (la : Anchors) (tryV1 hasV2 : Bool) :
    Prog Scsi CertOutcome :=
  if tryV1 then do
    match ← attemptV1 c fuel hc la hasV2 with
    | .done o => pure o
    | .fallThrough v1DriveDead => attemptP256 c fuel hc la v1DriveDead
  else attemptP256 c fuel hc la false

def maxCertAttempts : ℕ := 3
def perCertBackoffMs : ℕ := 1000

/-- The pause before every attempt but the first. -/
def backoff (driveAttempts : ℕ) : Prog Scsi (Except ScsiError Unit) :=
  if driveAttempts > 0 then Scsi.pause perCertBackoffMs else pure (.ok ())

/-- What the loop reports once no more certificates are tried. -/
def certsExhausted (driveAttempts : ℕ) : UnlockError :=
  if driveAttempts = 0 then .noUsableHostCert else .handshakeRejected

/-- The loop over the host certificates left to try. -/
def certLoop (la : Anchors) (allowP256 : Bool) :
    List HostCert → ℕ → Bool → Prog Scsi (Except UnlockError CertHandshake)
  | [], driveAttempts, _ => pure (.error (certsExhausted driveAttempts))
  | hc :: certs, driveAttempts, v1DriveDead =>
    if driveAttempts ≥ maxCertAttempts then pure (.error (certsExhausted driveAttempts))
    else
      let hasV2 := v2CredsUsable hc allowP256
      if !hasV2 && v1DriveDead then certLoop la allowP256 certs driveAttempts v1DriveDead
      else
        let v1Ok := v1CredsUsable hc
        if !v1Ok && !hasV2 then certLoop la allowP256 certs driveAttempts v1DriveDead
        else do
          match ← backoff driveAttempts with
          | .error _ => pure (.error .transport)
          | .ok _ =>
            match ← attemptOneCert c fuel hc la (v1Ok && !v1DriveDead) hasV2 with
            | .ok ch => pure (.ok ch)
            | .transport => pure (.error .transport)
            | .vidUnavailable => pure (.error .vidUnavailable)
            | .reject _ dead =>
              certLoop la allowP256 certs (driveAttempts + 1) (v1DriveDead || dead)

/-- The handshake with the trust anchors and the P-256 switch as parameters. -/
def runCertHandshakeWithAnchors (hostCerts : List HostCert) (la : Anchors) (allowP256 : Bool) :
    Prog Scsi (Except UnlockError CertHandshake) :=
  certLoop c fuel la allowP256 hostCerts 0 false

end Sessions

end FreemkvUnlock.Aacs
