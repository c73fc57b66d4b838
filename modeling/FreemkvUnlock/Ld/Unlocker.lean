import FreemkvUnlock.Bytes.BigEndian
import FreemkvUnlock.Ld.Readiness
import FreemkvUnlock.Ld.Upload

/-! # The firmware unlocker

Unlocking reads the drive's state, uploads the runtime image while it is not active, calibrates
the drive's speeds and reads the Volume ID. After an upload the drive restarts, so it is left
alone and then read again; the unlock is reported only when the last such read shows it.
-/

namespace FreemkvUnlock.Ld

open Interaction Fallible

/-! ## Initialization -/

def unlockAttempts : ℕ := 3

/-- A re-confirm read whose failure counts; `none` when a restarting drive gets another one. -/
def reconfirmOnce (clock : Clock) (start : ℕ) : Driver (Option (Except Error (List UInt8))) := do
  match ← Stateful.attempt doUnlock with
  | .ok response => return some (.ok response)
  | .error e => do
    let t ← Stateful.lift clock.elapsed
    if t - start < readyStall ∧ isRestartSense e then
      Stateful.lift (wait reconfirmSensePauseMs)
      return none
    else return some (.error e)

/-- The unlock read; with the clock of an upload it is repeated while the drive restarts. -/
def unlockRead (fuel : ℕ) : Option Clock → Driver (List UInt8)
  | none => doUnlock
  | some clock => do
    let start ← Stateful.lift clock.elapsed
    let r ← Stateful.retry (reconfirmOnce clock start) fuel
    Stateful.lift (result r)

/-- What a successful unlock read leads to: after an upload the medium is waited for. -/
def unlockConfirmed (fuel : ℕ) : Option Clock → Driver Unit
  | none => pure ()
  | some clock => do
    let _ ← Stateful.lift (awaitMediaReady fuel clock)
    pure ()

def Error.isSignatureMismatch : Error → Bool
  | .signatureMismatch .. => true
  | _ => false

/-- One attempt: another drive's signature and a dead bus end it, `lost` handles other failures. -/
def unlockAttempt (fuel : ℕ) (settled : Option Clock) (lost : Error → Driver Unit) :
    Driver Unit := do
  match ← Stateful.attempt (unlockRead fuel settled) with
  | .ok _ => unlockConfirmed fuel settled
  | .error e =>
    if e.isSignatureMismatch then throw .unlockFailed
    else if e.isTransportFailure then throw e
    else lost e

/-- Upload the firmware; with what the next attempt starts. -/
def reload (next : Option Clock → Error → Driver Unit) (lastErr : Error) : Driver Unit := do
  match ← Stateful.attempt loadFirmware with
  | .ok () => do
    let clock ← Stateful.lift settleAfterUpload
    next (some clock) lastErr
  | .error e =>
    if e.isTransportFailure then throw e
    else if isRestartSense e then do
      let clock ← Stateful.lift settleAfterUpload
      next (some clock) lastErr
    else next none e

/-- The attempts that are left; the one after the last upload only re-confirms. -/
def initAttempts (fuel : ℕ) : ℕ → Option Clock → Error → Driver Unit
  | 0, none, lastErr => throw lastErr
  | 0, some clock, _ => unlockAttempt fuel (some clock) throw
  | n + 1, settled, lastErr =>
    unlockAttempt fuel settled fun _ => reload (initAttempts fuel n) lastErr

def runInit (fuel : ℕ) : Driver Unit := initAttempts fuel unlockAttempts none .unlockFailed

/-- Unlock the drive, uploading firmware if needed. -/
def init (fuel : ℕ) : Driver Unit := do
  let mt ← get
  if mt.initComplete then pure () else runInit fuel

/-! ## Calibration -/

def initAddrBd : UInt16 := 0x0100
def initAddrUhd : UInt16 := 0x0200
def uhdSectorThreshold : ℕ := 25000000
def readCapacityResponseSize : ℕ := 8

def readCapacityCdb : List UInt8 := [scsiReadCapacity, 0, 0, 0, 0, 0, 0, 0, 0, 0]

/-- Sectors of the disc: one more than the last block address, or zero when it is not told. -/
def discSectors {n : ℕ} (r : ScsiResult) (cap : Vector UInt8 n) : ℕ :=
  if r.status = 0 ∧ 4 ≤ r.bytesTransferred then
    min (Bytes.fromBytesBe (cap.toList.take 4) + 1) (2 ^ 32 - 1)
  else 0

def initAddr (sectors : ℕ) : UInt16 :=
  if uhdSectorThreshold < sectors then initAddrUhd else initAddrBd

namespace Mt1959

variable (mt : Mt1959)

/-- The init command, whose rejection is tolerated. -/
def probeInit (address : UInt16) : Step Unit := ExceptT.mk do
  match ← (mt.readBufferProbe subCmdInit address probeResponseSize).run with
  | .error e => pure (if e.isTransportFailure then .error e else .ok ())
  | .ok _ => pure (.ok ())

/-- Coarse probes at the given addresses; a rejected one fails the calibration. -/
def coarseProbes (addresses : List UInt16) : Step Unit :=
  addresses.forM fun address => ExceptT.mk do
    match ← (mt.readBufferProbe subCmdProbe address probeResponseSize).run with
    | .error e => pure (.error (if e.isTransportFailure then e else .unlockFailed))
    | .ok _ => pure (.ok ())

/-- Fine probes at the given addresses; a rejected one ends the sweep. -/
def fineProbes : List UInt16 → Step Unit
  | [] => pure ()
  | address :: addresses => ExceptT.mk do
    match ← (mt.readBufferProbe subCmdProbe address probeResponseSize).run with
    | .error e => pure (if e.isTransportFailure then .error e else .ok ())
    | .ok _ => (fineProbes addresses).run

def maxSpeed : Prog Scsi Unit := do
  let _ ← setCdSpeedMax.run
  pure ()

end Mt1959

/-- Addresses in steps of 0x100: the coarse pass ends at 0x5800, the fine one at 0x10000. -/
def coarseAddresses : List UInt16 := (List.range 0x58).map fun i => (i * 0x100).toUInt16
def fineAddresses : List UInt16 := (List.range' 0x58 0xA8).map fun i => (i * 0x100).toUInt16

def probes (mt : Mt1959) : Step Unit := do
  let (r, cap) ← issue readCapacityCdb .fromDevice (List.replicate readCapacityResponseSize 0) 5000
  mt.probeInit (initAddr (discSectors r cap))
  validate mt
  mt.coarseProbes coarseAddresses
  mt.fineProbes fineAddresses

/-- Everything the calibration asks of the drive once it is unlocked. -/
def calibrate (mt : Mt1959) : Step Unit := do
  probes mt
  ExceptT.lift Mt1959.maxSpeed

def runProbe : Driver Unit := do
  let mt ← get
  if mt.initComplete then pure ()
  else
    let _ ← doUnlock
    pure ()
  let mt ← get
  Stateful.lift (calibrate mt)
  set { mt with probed := true }

/-- Calibrate the drive for the mounted disc; nothing before `init` or once it is done. -/
def probeDisc : Driver Unit := do
  let mt ← get
  if mt.initComplete = false ∨ mt.probed = true then pure () else runProbe

def reconfirmUnlock (fuel : ℕ) : Driver Bool := do
  let mt ← get
  set { mt with unlocked := false }
  let clock ← Stateful.lift readyClock
  let _ ← unlockRead fuel (some clock)
  let mt ← get
  return mt.unlocked

/-! ## Volume ID -/

def oemVidLen : ℕ := 36

def oemVidHeader : List UInt8 := [0x00, 0x22, 0x00]

def oemVidReply (r : ScsiResult) (buf : Vector UInt8 oemVidLen) : Option (Vector UInt8 16) :=
  if r.status = 0 ∧ oemVidLen ≤ r.bytesTransferred ∧ buf.toList.take 3 = oemVidHeader then
    some (buf.extract 4 20)
  else none

/-- The Volume ID by the entry's vendor command; only a transport error is an error. -/
def readOemVid (profile : DriveProfile) : Step (Option (Vector UInt8 16)) :=
  match profile.readVidCdb with
  | none => pure none
  | some cdb => do
    let (r, buf) ← issue cdb.toList .fromDevice (List.replicate oemVidLen 0) 5000
    return oemVidReply r (buf.cast (by simp))

/-! ## The unlocker -/

def faultSettleMs : ℕ := 5000

/-- Steps of the unlocker over a driver. -/
abbrev Unlocking (α : Type) : Type := Stateful Scsi Mt1959 UnlockError α

/-- After a fault of the calibration: silence, then the drive has to show the unlock again. -/
def reconfirmAfterFault (fuel : ℕ) : Unlocking Unit := do
  Stateful.mapErr Error.toUnlockError (Stateful.lift (settle faultSettleMs))
  let unlocked ← Stateful.mapErr Error.toUnlockError (reconfirmUnlock fuel)
  if unlocked then pure () else throw .notApplicable

/-- Best-effort calibration: its failures are dropped, but for a fault of the transport. -/
def calibrated (fuel : ℕ) : Unlocking Unit := do
  match ← Stateful.attempt probeDisc with
  | .ok () => pure ()
  | .error e => if e.isTransportFailure then reconfirmAfterFault fuel else pure ()

def firmwareUnlockWith (fuel : ℕ) : Unlocking Unlocked := do
  Stateful.mapErr Error.toUnlockError (init fuel)
  let mt ← get
  if mt.unlocked then pure () else throw .notApplicable
  calibrated fuel
  let vid ← Stateful.mapErr Error.toUnlockError (Stateful.lift (readOemVid mt.profile))
  return ⟨vid, none⟩

/-- The driver of a catalog's entry for the drive. -/
def driverFor (catalog : Option Profiles) (id : DriveId) : Option Mt1959 := do
  let profiles ← catalog
  let m ← findByDriveId profiles id
  Mt1959.new m.profile m.platform

def firmwareUnlock (catalog : Option Profiles) (fuel : ℕ) (ctx : UnlockCtx) :
    Fallible Scsi UnlockError Unlocked :=
  match driverFor catalog ctx.driveId with
  | none => throw .notApplicable
  | some mt => Stateful.eval (firmwareUnlockWith fuel) mt

def unlock (catalog : Option Profiles) (fuel : ℕ) (ctx : UnlockCtx) :
    Fallible Scsi UnlockError (Option Unlocked) :=
  ExceptT.mk (fallthrough <$> (firmwareUnlock catalog fuel ctx).run)

end FreemkvUnlock.Ld
