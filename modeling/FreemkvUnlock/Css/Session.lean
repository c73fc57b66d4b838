import FreemkvUnlock.Css.CryptKey
import FreemkvUnlock.Scsi
import FreemkvUnlock.Unlocker

/-! # The CSS bus authentication

Challenge and response with a DVD drive under an allocated AGID, the best-effort disc-key read
that follows, and the unlocker that runs them when the drive reports a DVD.
-/

namespace FreemkvUnlock.Css

open Interaction Fallible

def scsiGetConfiguration : UInt8 := 0x46

inductive Error
  | cssAuthFailed
  | scsi (e : ScsiError)
  deriving DecidableEq

namespace Error

/-- Stable numeric code. -/
def code : Error → ℕ
  | cssAuthFailed => 7201
  | scsi _ => 7299

def isTransportFailure : Error → Bool
  | scsi e => isDeadBus e
  | cssAuthFailed => false

/-- A transport error of a step: a dead bus is kept, anything else fails the authentication. -/
def step (e : ScsiError) : Error := if (scsi e).isTransportFailure then scsi e else cssAuthFailed

def toUnlockError (e : Error) : UnlockError :=
  if e.isTransportFailure then .transport else .notApplicable

end Error

/-- Steps of the authentication. -/
abbrev Session (α : Type) : Type := Fallible Scsi Error α

/-! ## Commands -/

/-- What a command makes of its outcome: the buffer of a GOOD reply of at least `minBytes`. -/
def cssReply {n : ℕ} (minBytes : ℕ) (o : Outcome n) : Except Error (List UInt8) :=
  match o.result with
  | .error e => .error (.step e)
  | .ok r =>
    if r.status ≠ 0 then .error .cssAuthFailed
    else if r.bytesTransferred < minBytes then .error .cssAuthFailed
    else .ok o.data.toList

/-- One command of the bus authentication. -/
def cssScsi (cdb : List UInt8) (dir : DataDirection) (buf : List UInt8) (minBytes : ℕ) :
    Session (List UInt8) := do
  let o ← ExceptT.lift (Scsi.execute cdb dir buf 5000)
  result (cssReply minBytes o)

/-- A key command: REPORT KEY or SEND KEY. -/
def keyCdb (opcode agid format : UInt8) (len : UInt16) : Vector UInt8 12 :=
  #v[opcode, 0, 0, 0, 0, 0, 0, 0, (len >>> 8).toUInt8, len.toUInt8,
    (agid <<< 6) ||| (format &&& 0x3F), 0]

def reportKeyCdb (agid format : UInt8) (allocLen : UInt16) : Vector UInt8 12 :=
  keyCdb scsiReportKey agid format allocLen

def sendKeyCdb (agid format : UInt8) (paramLen : UInt16) : Vector UInt8 12 :=
  keyCdb scsiSendKey agid format paramLen

/-- REPORT KEY of key format 3Fh, which invalidates or releases an AGID. -/
def agidReleaseCdb (agid : UInt8) : Vector UInt8 12 :=
  #v[scsiReportKey, 0, 0, 0, 0, 0, 0, 0, 0, 0, (agid <<< 6) ||| 0x3F, 0]

/-- Header and disc key of the structure read by `readDiscKey`. -/
def discKeyLen : UInt16 := 2048 + 4

def discKeyCdb (agid : UInt8) : Vector UInt8 12 :=
  #v[scsiReadDiscStructure, 0, 0, 0, 0, 0, 0, 0x02, (discKeyLen >>> 8).toUInt8, discKeyLen.toUInt8,
    agid <<< 6, 0]

/-! ## Bus authentication -/

/-- Invalidate an AGID that is not held; the outcome is ignored. -/
def invalidateAgid (agid : UInt8) : Prog Scsi Unit := do
  let _ ← Scsi.execute (agidReleaseCdb agid).toList .fromDevice (List.replicate 8 0) 5000
  pure ()

/-- The smallest variant under which the drive's first key answers the host's challenge. -/
def findVariant (hostChallenge : Vector UInt8 10) (key1 : List UInt8) : Option (Fin 32) :=
  (List.finRange 32).find? fun v => (cryptKey 0 v hostChallenge).toList == key1

/-- A drive challenge as it is read out of a reply, last byte first. -/
def driveChallenge (dcBuf : List UInt8) : Vector UInt8 10 :=
  Vector.ofFn fun i => dcBuf.getD (4 + (9 - i)) 0

/-- Challenge and response with the AGID already allocated. -/
def authenticateWithAgid (agid : UInt8) : Session Unit := do
  let hostChallenge ← ExceptT.lift (Scsi.fillBytes 10)
  let _ ← cssScsi (sendKeyCdb agid 0x01 16).toList .toDevice
    ([0x00, 0x0E, 0x00, 0x00] ++ hostChallenge.toList.reverse ++ [0x00, 0x00]) 0
  let dkBuf ← cssScsi (reportKeyCdb agid 0x02 12).toList .fromDevice (List.replicate 12 0) 12
  let key1 := (dkBuf.extract 4 9).reverse
  let variant ← result (okOr (findVariant hostChallenge key1) .cssAuthFailed)
  let dcBuf ← cssScsi (reportKeyCdb agid 0x01 16).toList .fromDevice (List.replicate 16 0) 16
  let key2 := cryptKey 1 variant (driveChallenge dcBuf)
  let _ ← cssScsi (sendKeyCdb agid 0x03 12).toList .toDevice
    ([0x00, 0x0A, 0x00, 0x00] ++ key2.toList.reverse ++ [0x00, 0x00, 0x00]) 0
  pure ()

def agidGuard (agid : UInt8) : AgidGuard := ⟨agid, agidReleaseCdb agid⟩

theorem releaseLen_agidGuard (agid : UInt8) : (agidGuard agid).releaseLen = 8 := by
  simp [AgidGuard.releaseLen, agidGuard, agidReleaseCdb]

/-- Allocate an AGID: the top two bits of the reply's last byte. -/
def allocateAgid : Session UInt8 := do
  let buf ← cssScsi (reportKeyCdb 0 0x00 8).toList .fromDevice (List.replicate 8 0) 8
  pure ((buf.getD 7 0 >>> 6) &&& 0x03)

/-- Invalidate all AGIDs, allocate one and authenticate under it; it comes back still held. -/
def establishAuthenticatedSession : Session UInt8 := do
  ExceptT.lift do
    invalidateAgid 0
    invalidateAgid 1
    invalidateAgid 2
    invalidateAgid 3
  let agid ← allocateAgid
  let ((), guard) ← holding (agidGuard agid) (authenticateWithAgid agid)
  pure guard.agid

/-- The disc-key read, for its effect on the drive only; the bytes are not used. -/
def readDiscKey (agid : UInt8) : Session Unit := do
  let _ ← cssScsi (discKeyCdb agid).toList .fromDevice (List.replicate discKeyLen.toNat 0) 0
  pure ()

/-- The bus authentication, then the disc-key read whose failure is ignored. -/
def unlockCssReads : Session Unit := do
  let agid ← establishAuthenticatedSession
  ExceptT.lift do
    let _ ← (readDiscKey agid).run
    pure ()

/-! ## The unlocker -/

/-- GET CONFIGURATION of the feature header, which carries the current profile. -/
def getConfigurationCdb : List UInt8 := [scsiGetConfiguration, 0, 0, 0, 0, 0, 0, 0, 0x08, 0]

def profileReply (o : Outcome 8) : Except UnlockError Bool :=
  match o.result with
  | .ok r =>
    if r.status = 0 ∧ 8 ≤ r.bytesTransferred then
      let profile := ((o.data.get 6).toUInt16 <<< 8) ||| (o.data.get 7).toUInt16
      .ok (0x0010 ≤ profile ∧ profile ≤ 0x001F)
    else .ok false
  | .error e => .error (Error.step e).toUnlockError

def mountedDiscIsDvd : Fallible Scsi UnlockError Bool := do
  let o ← ExceptT.lift (Scsi.execute getConfigurationCdb .fromDevice (List.replicate 8 0) 5000)
  result (profileReply o)

/-- The DVD unlocker: declines unless the drive reports a DVD, learns nothing on success. -/
def unlock : Fallible Scsi UnlockError (Option Unlocked) := do
  if ← mountedDiscIsDvd then
    ExceptT.mk do
      let r ← (unlockCssReads.mapErr Error.toUnlockError).run
      pure (fallthrough (r.map fun _ => ⟨none, none⟩))
  else pure none

end FreemkvUnlock.Css
