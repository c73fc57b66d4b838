import FreemkvUnlock.Scsi
import FreemkvUnlock.Unlocker

/-! # Volume ID of an opened drive

The bare READ DISC STRUCTURE that returns the Volume ID once a drive's bus is open. It is best
effort: only a dead bus is an error.
-/

namespace FreemkvUnlock

open Interaction

def discStructFmtVid : UInt8 := 0x80

/-- A four-byte header, the Volume ID, and a code that is not checked here. -/
def vidStructLen : ℕ := 36

def buildVidCdb : List UInt8 :=
  [scsiReadDiscStructure, 0x01, 0, 0, 0, 0, 0, discStructFmtVid,
    (vidStructLen >>> 8).toUInt8, (vidStructLen &&& 0xFF).toUInt8, 0, 0]

def vidReply (o : Outcome vidStructLen) : Except UnlockError (Option (Vector UInt8 16)) :=
  match o.result with
  | .error e => if isDeadBus e then .error .transport else .ok none
  | .ok r =>
    if r.status ≠ 0 then .ok none
    else if r.bytesTransferred < 4 + 16 then .ok none
    else
      let vid : Vector UInt8 16 := o.data.extract 4 20
      if vid.all (· == 0) || vid.all (· == 0xFF) then .ok none else .ok (some vid)

def readAacsVid : Fallible Scsi UnlockError (Option (Vector UInt8 16)) := do
  let o ← ExceptT.lift (Scsi.execute buildVidCdb .fromDevice (List.replicate vidStructLen 0) 5000)
  Fallible.result (vidReply o)

end FreemkvUnlock
