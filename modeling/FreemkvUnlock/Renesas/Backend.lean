import FreemkvUnlock.Freemkv.Backend
import FreemkvUnlock.Renesas.Hook

/-! # The Renesas backend

Platform detection, and the unlock sequence's hardware side for Renesas drives: a plan is
prepared outside the critical span, and a touched drive is either verified or cleaned up.
-/

namespace FreemkvUnlock.Renesas

open Interaction Fallible Protocol

variable (P : Pioneer)

/-- The interface marker "SAT" of a Renesas identity block. -/
def renesasMarker : List UInt8 := [0x53, 0x41, 0x54]

def renesasMarkerOffset : ℕ := 16

def renesasReply {n : ℕ} (o : Outcome n) : Except UnlockError Bool :=
  let stop := renesasMarkerOffset + renesasMarker.length
  match o.result with
  | .ok r => .ok (r.status = 0 ∧ stop ≤ r.bytesTransferred ∧ r.bytesTransferred ≤ n ∧
      o.data.toList.extract renesasMarkerOffset stop = renesasMarker)
  | .error e => if isDeadBus e then .error .transport else .ok false

def isRenesas : Freemkv.Step Bool := do
  let o ← ExceptT.lift
    (Scsi.execute P.vendorIdentity .fromDevice (List.replicate P.identityLen 0) 5000)
  result (renesasReply o)

/-- What setting the speed policy makes of its outcome; only a dead bus matters. -/
def configureReply : QuietOutcome → Except UnlockError Unit
  | .unverified (some e) | .failed (some e) => if isDeadBus e then .error .transport else .ok ()
  | _ => .ok ()

def configure : Freemkv.Step Unit := do
  let outcome ← ExceptT.lift Scsi.quietDrive
  result (configureReply outcome)

/-- The plan, whether the hook was resident before, and whether writing may have begun. -/
structure State where
  prepared : Option Prepared
  existing : Bool
  touched : Bool

def State.new : State := ⟨none, false, false⟩

def prepareBackend (s : State) (installed : Bool) : Freemkv.Step State := do
  let prepared ← mapErr (preparationError installed) (prepare P installed)
  return { s with prepared := some prepared, existing := installed }

def install (s : State) (installed : Bool) : Prog Scsi (Except UnlockError Unit × State) :=
  match s.prepared with
  | none => return (.error .notApplicable, s)
  | some p => do
    match ← (mapErr (preparationError installed) (checkPrepared P p installed)).run with
    | .error e => return (.error e, s)
    | .ok () =>
      let s := { s with touched := true }
      if installed then return (.ok (), s)
      else
        let r ← (mapErr transactionError (stage P p)).run
        return (r, s)

/-- A SET counts only with the full, all-zero reply. -/
def validateSetReply (reply : ScsiResult) (data : List UInt8) : Except UnlockError Unit :=
  if reply.bytesTransferred = 64 ∧ data = List.replicate 64 0 then .ok () else .error .transport

def verify (s : State) : Freemkv.Step Unit := do
  let p ← result (okOr s.prepared .notApplicable)
  mapErr transactionError (verifyState P p)
  mapErr transactionError (verifyResident P p)

/-- A fresh installation is cleaned up; a hook that was resident before is left alone. -/
def undo (p : Prepared) (existing : Bool) : Freemkv.Step Unit :=
  if existing then pure () else mapErr transactionError (cleanup P p)

/-- Accept a verified success; undo anything else that touched the drive. -/
def finish (s : State) (success : Bool) : Freemkv.Step Unit :=
  match s.touched, s.prepared with
  | true, some p => do
    let verified ← ExceptT.lift (if success then Except.isOk <$> (verifyResident P p).run
      else pure false)
    if verified then pure ()
    else do
      undo P p s.existing
      throw .transport
  | _, _ => pure ()

def backend : Freemkv.Backend State where
  commandTimeoutMs feature := if feature = .encryption then 30000 else 5000
  prepare := prepareBackend P
  install := install P
  validateSetReply := validateSetReply
  tune := configure
  capabilities := .pioneerRuntime
  verify := verify P
  finish := finish P

end FreemkvUnlock.Renesas
