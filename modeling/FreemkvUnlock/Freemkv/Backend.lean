import FreemkvUnlock.Interaction.Prog
import FreemkvUnlock.Protocol
import FreemkvUnlock.Vid

/-! # Common unlock sequence

The sequence shared by flashed firmware and runtime implementations: a backend installs itself
inside a critical span, optional settings are best effort, and encryption off is required.
-/

namespace FreemkvUnlock.Freemkv

open Interaction Fallible Protocol

abbrev Step (α : Type) : Type := Fallible Scsi UnlockError α

/-- Run `body` in a critical span, closed on every exit; a refused span runs nothing. -/
def criticalSpan {α : Type} (body : Prog Scsi α) : Step α := do
  let opened ← ExceptT.lift Scsi.beginCritical
  result (opened.mapError fun _ => .transport)
  let a ← ExceptT.lift body
  ExceptT.lift Scsi.endCritical
  return a

/-- Deliver a cancellation that a critical span deferred. -/
def checkpoint : Step Unit := do
  let r ← ExceptT.lift (Scsi.pause 0)
  result (r.mapError fun _ => .transport)

/-- Hardware side of the sequence, over a state `σ`. -/
structure Backend (σ : Type) where
  commandTimeoutMs : Feature → ℕ := fun _ => 5000
  prepare : σ → Bool → Step σ := fun s _ => pure s
  validateSetReply : ScsiResult → List UInt8 → Except UnlockError Unit := fun _ _ => .ok ()
  install : σ → Bool → Prog Scsi (Except UnlockError Unit × σ) :=
    fun s installed => pure (if installed then .ok () else .error .notApplicable, s)
  capabilities : Capabilities
  verify : σ → Step Unit := fun _ => pure ()
  tune : Step Unit := pure ()
  getVid : Step (Option (Vector UInt8 16)) := readAacsVid
  finish : σ → Bool → Step Unit := fun _ _ => pure ()

/-- The backend of already flashed firmware. -/
def preinstalled (capabilities : Capabilities) : Backend Unit := { capabilities }

/-! ## Commands -/

def probeReply (o : Outcome memreadLen) : Except UnlockError (Option ProtocolIdentity) :=
  match o.result with
  | .ok r =>
    if r.status = 0 ∧ r.bytesTransferred ≤ memreadLen then
      let bytes := o.data.toList.take r.bytesTransferred
      match ProtocolIdentity.parse bytes with
      | some id => .ok (some id)
      | none => if (FirmwareIdentity.parse bytes).isSome then .error .notApplicable else .ok none
    else .ok none
  | .error e => if isDeadBus e then .error .transport else .ok none

def probe : Step (Option ProtocolIdentity) := do
  let o ← ExceptT.lift
    (Scsi.execute (buildIdentityCdb memreadLen) .fromDevice (List.replicate memreadLen 0) 5000)
  result (probeReply o)

variable {σ : Type} (B : Backend σ)

def setReply (o : Outcome minAllocLen) : Except UnlockError Unit :=
  match o.result with
  | .ok r => if r.status = 0 then B.validateSetReply r o.data.toList else .error .notApplicable
  | .error e => .error (if isDeadBus e then .transport else .notApplicable)

def setChecked (feature : Feature) (state : UInt8) : Step Unit := do
  let o ← ExceptT.lift (Scsi.execute (buildSetCdb feature state) .fromDevice
    (List.replicate minAllocLen 0) (B.commandTimeoutMs feature))
  result (setReply B o)

/-- A setting of which only a dead bus matters. -/
def setBestEffort (setting : Feature × UInt8) : Step Unit :=
  if B.capabilities.supportsSet setting.1 setting.2 then
    ExceptT.mk do
      match ← (setChecked B setting.1 setting.2).run with
      | .error .transport => return .error .transport
      | _ => return .ok ()
  else pure ()

/-- Optional settings, then encryption off. -/
def activate : Step Unit := do
  [(.region, regionFree), (.speed, speedMax), (.unrestricted, stateOn)].forM (setBestEffort B)
  ensure (B.capabilities.supportsSet .encryption stateOff) .notApplicable
  mapErr (fun e => if e = .transport then e else .vidUnavailable)
    (setChecked B .encryption stateOff)

def activateBackend (s : σ) : Step Unlocked := do
  activate B
  B.verify s
  let vid ← B.getVid
  return ⟨vid, none⟩

/-! ## The transaction -/

/-- A freshly installed implementation must answer the probe as the backend's own. -/
def confirmInstalled (installed : Bool) : Step Unit :=
  if installed then pure ()
  else do
    let id ← probe
    let id ← result (okOr id .notApplicable)
    ensure (id.capabilities = B.capabilities) .notApplicable

/-- Install, confirm and activate; the state records what was touched on the way. -/
def attempt (s : σ) (installed : Bool) : Prog Scsi (Except UnlockError Unlocked × σ) := do
  let (r, s) ← B.install s installed
  match r with
  | .error e => return (.error e, s)
  | .ok () =>
    let r ← (do confirmInstalled B installed; activateBackend B s : Step Unlocked).run
    return (r, s)

/-- The body of the critical span: an attempt, finished according to its success. -/
def transaction (s : σ) (installed : Bool) :
    Prog Scsi (Except UnlockError (Except UnlockError Unlocked)) := do
  let (r, s) ← attempt B s installed
  let finished ← (B.finish s r.isOk).run
  return finished.map fun _ => r

def unlockBackend (s : σ) (installed : Bool) : Step Unlocked := do
  let finished ← criticalSpan (transaction B s installed)
  let r ← result finished
  checkpoint
  if r.isOk then B.tune
  result r

end FreemkvUnlock.Freemkv
