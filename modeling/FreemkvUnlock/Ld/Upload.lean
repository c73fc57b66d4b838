import FreemkvUnlock.Ld.Mt1959

/-! # Firmware upload

Both variants send the runtime image and their advisory follow-ups inside one critical span, and
then read the unlock state back: variant A once, variant B up to six times. A successful read is
repeated once for confirmation, and that second read decides nothing.
-/

namespace FreemkvUnlock.Ld

open Interaction Fallible

def verifyBufferId : UInt8 := 0x45

/-- WRITE BUFFER's transfer length has 24 bits. -/
def writeBufferMaxLen : ℕ := 0x00FFFFFF

def scsiModeSelect : UInt8 := 0x55

def firmwareExtra : List UInt8 := List.replicate 16 0

/-- The vendor verify command of entries that carry none of their own. -/
def vendorVerify : Vector UInt8 10 :=
  #v[0xF1, 0x01, 0x02, 0x00, 0x0D, 0x30, 0x01, 0xF3, 0xAD, 0x23]

/-! ## Steps -/

/-- A critical span: its end is reported however the steps inside it end. -/
def critical (x : Step Unit) : Step Unit := ExceptT.mk do
  match ← Scsi.beginCritical with
  | .error e => pure (.error (.ofScsiError e))
  | .ok () => do
    let r ← x.run
    Scsi.endCritical
    pure r

/-- A step of which only a dead bus ends the upload. -/
def advisory (r : Except ScsiError ScsiResult) : Except Error Unit :=
  match r with
  | .ok _ => .ok ()
  | .error e => if (Error.ofScsiError e).isTransportFailure then .error (.ofScsiError e) else .ok ()

def traceStep (cdb : List UInt8) (dir : DataDirection) (data : List UInt8) : Step Unit := do
  let o ← ExceptT.lift (Scsi.execute cdb dir data 5000)
  result (advisory o.result)

/-- A command that carries data of the given length, in the three bytes of its length field. -/
def uploadCdb (opcode mode : UInt8) (len : ℕ) : List UInt8 :=
  [opcode, mode, 0, 0, 0, 0, (len >>> 16).toUInt8, (len >>> 8).toUInt8, len.toUInt8, 0]

/-- Send the image; its status is not looked at. -/
def upload (opcode mode : UInt8) (firmware : List UInt8) : Step Unit := do
  let _ ← issue (uploadCdb opcode mode firmware.length) .toDevice firmware 30000
  pure ()

/-- A last unlock read whose outcome is ignored. -/
def confirm : Driver Unit := do
  let _ ← (Stateful.attempt doUnlock : Driver (Except Error (List UInt8)))
  pure ()

/-! ## Variant A -/

def verifyCdbA : List UInt8 :=
  [scsiReadBuffer, modeA, verifyBufferId, 0, 0, 0, 0, 0, validateResponseSize.toUInt8, 0]

def loadFirmwareA : Driver Unit := do
  let mt ← get
  let firmware := mt.profile.firmware
  Stateful.lift (ensure (firmware ≠ [] ∧ firmware.length ≤ writeBufferMaxLen) .unlockFailed)
  Stateful.lift <| critical do
    upload scsiWriteBuffer 0x06 firmware
    traceStep verifyCdbA .fromDevice (List.replicate validateResponseSize 0)
  let _ ← doUnlock
  confirm

/-! ## Variant B -/

def readMetaCdb : List UInt8 := [scsiReadBuffer, 0x06, 0, 0, 0x30, 0, 0, 0, 0x10, 0]

/-- Unlock reads after the upload: up to `n` that may fail, then one that may not. -/
def unlockRetries : ℕ → Driver Unit
  | 0 => do
    let _ ← doUnlock
    pure ()
  | n + 1 => do
    match ← Stateful.attempt doUnlock with
    | .ok _ => confirm
    | .error e => if e.isTransportFailure then throw e else unlockRetries n

def loadFirmwareB : Driver Unit := do
  let mt ← get
  let firmware := mt.profile.firmware
  Stateful.lift (ensure (firmware ≠ [] ∧ firmware.length ≤ 0xFFFF) .unlockFailed)
  Stateful.lift <| critical do
    upload scsiModeSelect 0x10 firmware
    traceStep readMetaCdb .fromDevice (List.replicate 16 0)
    traceStep (uploadCdb scsiWriteBuffer 0x06 firmwareExtra.length) .toDevice firmwareExtra
    traceStep (mt.profile.fwVerifyCdb.getD vendorVerify).toList .none []
  unlockRetries 5

/-- The upload of the driver's variant. -/
def loadFirmware : Driver Unit := do
  let mt ← get
  if mt.mode = modeA then loadFirmwareA else loadFirmwareB

end FreemkvUnlock.Ld
