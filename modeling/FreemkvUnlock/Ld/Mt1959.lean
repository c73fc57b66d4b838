import FreemkvUnlock.Interaction.Stateful
import FreemkvUnlock.Ld.Profile
import FreemkvUnlock.Scsi

/-! # The MT1959 driver

The driver's state and the commands both variants share: the unlock read that alone sets the
state, the short reads of the calibration, and the clock that waits are measured with.
-/

namespace FreemkvUnlock.Ld

open Interaction Fallible

/-! ## Constants -/

def modeA : UInt8 := 0x01
def modeB : UInt8 := 0x02
def bufferIdA : UInt8 := 0x44
def bufferIdB : UInt8 := 0x77

def scsiReadBuffer : UInt8 := 0x3C
def scsiWriteBuffer : UInt8 := 0x3B
def scsiReadCapacity : UInt8 := 0x25
def scsiTestUnitReady : UInt8 := 0x00
def scsiSetCdSpeed : UInt8 := 0xBB

def subCmdUnlock : UInt8 := 0x00
def subCmdInit : UInt8 := 0x12
def subCmdProbe : UInt8 := 0x14
def unlockResponseSize : ℕ := 64
def validateResponseSize : ℕ := 4
def probeResponseSize : ℕ := 4

/-- The texts "MMkv" and "LbDr" that a runtime image puts into its unlock response. -/
def firmwareActiveSig : List UInt8 := [0x4D, 0x4D, 0x6B, 0x76]
def firmwareModeSig : List UInt8 := [0x4C, 0x62, 0x44, 0x72]
def firmwareActiveOffset : ℕ := 12
def firmwareModeOffset : ℕ := 16
def minUnlockResponse : ℕ := firmwareModeOffset + 4

/-- Milliseconds on the clock. -/
def nanos (ms : ℕ) : ℕ := ms * 1000000

/-! ## Errors -/

inductive Error
  | profileParse
  | unlockFailed
  | signatureMismatch (expected got : Vector UInt8 4)
  | scsi (opcode status : UInt8) (sense : Option (Vector UInt8 32))
  deriving DecidableEq

namespace Error

def code : Error → ℕ
  | profileParse => 7101
  | unlockFailed => 7102
  | signatureMismatch .. => 7103
  | scsi .. => 7199

/-- Sense key, ASC and ASCQ of a drive sense. -/
def senseTriple : Error → Option (UInt8 × UInt8 × UInt8)
  | scsi _ _ (some sense) =>
    let s := ScsiSense.fromBuf sense
    some (s.senseKey, s.asc, s.ascq)
  | _ => none

def isTransportFailure : Error → Bool
  | scsi _ status none => status == scsiStatusTransportFailure
  | _ => false

def ofScsiError (e : ScsiError) : Error := .scsi 0 e.status e.sense

def toUnlockError (e : Error) : UnlockError :=
  if e.isTransportFailure then .transport else .notApplicable

end Error

/-- A restarting drive's answers: unit attention, or not ready for a reason that passes. -/
def isRestartSense (e : Error) : Bool :=
  match e.senseTriple with
  | some (0x06, _, _) => true
  | some (0x02, 0x04, ascq) => ascq = 0x00 || ascq = 0x01 || 0x04 ≤ ascq
  | _ => false

/-! ## State -/

structure Mt1959 where
  profile : DriveProfile
  mode : UInt8
  bufferId : UInt8
  initComplete : Bool
  unlocked : Bool
  probed : Bool

/-- A fresh driver; `none` for a platform of another chipset. -/
def Mt1959.new (profile : DriveProfile) : Platform → Option Mt1959
  | .mt1959A => some ⟨profile, modeA, bufferIdA, false, false, false⟩
  | .mt1959B => some ⟨profile, modeB, bufferIdB, false, false, false⟩
  | .renesas => none

/-- Steps that leave the driver's state alone. -/
abbrev Step (α : Type) : Type := Fallible Scsi Error α

/-- Steps of the driver. -/
abbrev Driver (α : Type) : Type := Stateful Scsi Mt1959 Error α

/-! ## Commands -/

/-- One command whose transport error ends the step. -/
def issue (cdb : List UInt8) (dir : DataDirection) (data : List UInt8) (timeoutMs : ℕ) :
    Step (ScsiResult × Vector UInt8 data.length) := do
  let o ← ExceptT.lift (Scsi.execute cdb dir data timeoutMs)
  result ((o.result.mapError Error.ofScsiError).map fun r => (r, o.data))

namespace Mt1959

variable (mt : Mt1959)

def readBufferSub (subCmd : UInt8) (address : UInt16) (length : ℕ) : List UInt8 :=
  [scsiReadBuffer, mt.mode, mt.bufferId, subCmd, (address >>> 8).toUInt8, address.toUInt8, 0, 0,
    length.toUInt8, 0]

/-- A drive sense reported by a READ BUFFER. -/
def readBufferError (r : ScsiResult) : Error := .scsi scsiReadBuffer r.status (some r.sense)

/-- A short read: GOOD and of exactly the requested length. -/
def readBufferProbe (subCmd : UInt8) (address : UInt16) (expected : ℕ) : Step ℕ := do
  let (r, _) ← issue (mt.readBufferSub subCmd address expected) .fromDevice
    (List.replicate expected 0) 5000
  ensure (r.status = 0 ∧ r.bytesTransferred = expected) (readBufferError r)
  return r.bytesTransferred

def setCdSpeedMax : Step Unit := do
  let _ ← issue [scsiSetCdSpeed, 0, 0xFF, 0xFF, 0xFF, 0xFF, 0, 0, 0, 0, 0, 0] .none [] 5000
  pure ()

def unlockCdb : List UInt8 := mt.readBufferSub subCmdUnlock 0 unlockResponseSize

/-- What an unlock response shows: an error unless signature and first marker are there, else
whether the second marker is there too. -/
def checkResponse (r : ScsiResult) (response : List UInt8) : Except Error Bool :=
  if r.status ≠ 0 then .error (readBufferError r)
  else if min r.bytesTransferred response.length < minUnlockResponse then .error .unlockFailed
  else if response.extract 0 4 ≠ mt.profile.signature.toList then
    .error (.signatureMismatch mt.profile.signature (Vector.ofFn fun i => response.getD i 0))
  else if response.extract firmwareActiveOffset (firmwareActiveOffset + 4) ≠ firmwareActiveSig then
    .error .unlockFailed
  else .ok (response.extract firmwareModeOffset (firmwareModeOffset + 4) == firmwareModeSig)

end Mt1959

/-- The unlock read; a response that passes sets the state, a failure leaves it as it was. -/
def doUnlock : Driver (List UInt8) := do
  let mt ← get
  let (r, response) ← Stateful.lift
    (issue mt.unlockCdb .fromDevice (List.replicate unlockResponseSize 0) 30000)
  let unlocked ← Stateful.lift (result (mt.checkResponse r response.toList))
  set { mt with unlocked := unlocked, initComplete := true }
  return response.toList

/-- Up to `n` reads of the validation buffer: GOOD passes, a transport error of any kind ends it. -/
def validateLoop (mt : Mt1959) : ℕ → Step Unit
  | 0 => throw .unlockFailed
  | n + 1 => do
    let (r, _) ← issue (mt.readBufferSub subCmdUnlock 0 validateResponseSize) .fromDevice
      (List.replicate validateResponseSize 0) 5000
    if r.status = 0 then pure () else validateLoop mt n

def validate (mt : Mt1959) : Step Unit := validateLoop mt 5

/-! ## Clock -/

/-- A clock, by the moment it was started. -/
abbrev Clock : Type := ℕ

def readyClock : Step Clock := ExceptT.lift Scsi.now

def Clock.elapsed (clock : Clock) : Step ℕ := do
  let t ← ExceptT.lift Scsi.now
  return t - clock

/-- Wait between attempts; a stopped operation refuses. -/
def wait (ms : ℕ) : Step Unit := do
  let r ← ExceptT.lift (Scsi.pause ms)
  result (r.mapError Error.ofScsiError)

/-- The readiness window: this long without progress is a stall. -/
def readyStall : ℕ := nanos 60000

def uploadSettleMs : ℕ := 10000

def reconfirmSensePauseMs : ℕ := 1000

/-- The silence after a firmware upload; returns the clock the re-confirm read uses. -/
def settleAfterUpload : Step Clock := do
  let clock ← readyClock
  wait uploadSettleMs
  return clock

/-- Send nothing for a while. -/
def settle (ms : ℕ) : Step Unit := do
  let _ ← readyClock
  wait ms

end FreemkvUnlock.Ld
