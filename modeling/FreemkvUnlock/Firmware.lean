import FreemkvUnlock.Protocol

/-! # Firmware control

The typed driver of the vendor-command grammar: commands with a data-in phase, identity and
feature states, and the recipes that arm a drive. A recipe that is refused midway leaves its
earlier settings applied.
-/

namespace FreemkvUnlock.Firmware

open Interaction Fallible Protocol

inductive FirmwareError
  | rejected
  | unsupportedFirmware
  | invalidArgument
  | verifyFailed (feature : Feature) (wanted got : UInt8)
  | transport
  deriving DecidableEq

/-- Steps over the firmware's commands. -/
abbrev Control (α : Type) : Type := Fallible Scsi FirmwareError α

inductive ArmRecipe
  | oemBd
  | oemUhd
  | bypassBd
  | bypassUhd
  | stealthOem
  deriving DecidableEq, Repr

/-- Whether the recipe turns encryption off: the drive then needs no certificate. -/
def ArmRecipe.disablesEncryption : ArmRecipe → Bool
  | oemUhd | bypassBd | bypassUhd => true
  | oemBd | stealthOem => false

def cmdTimeoutMs : ℕ := 5000

/-! ## Commands -/

/-- What a data-in command makes of its outcome: the buffer and the count of a GOOD reply. -/
def inReply (o : Outcome memreadLen) : Except FirmwareError (List UInt8 × ℕ) :=
  match o.result with
  | .ok r => if r.status = 0 then .ok (o.data.toList, r.bytesTransferred) else .error .rejected
  | .error e => .error (if isDeadBus e then .transport else .rejected)

def execIn (cdb : List UInt8) : Control (List UInt8 × ℕ) := do
  let o ← ExceptT.lift
    (Scsi.execute cdb .fromDevice (List.replicate memreadLen 0) cmdTimeoutMs)
  result (inReply o)

/-- What an identity reply tells; a drive that refuses the command is not freemkv firmware. -/
def identityReply : Except FirmwareError (List UInt8 × ℕ) →
    Except FirmwareError (Option FirmwareIdentity)
  | .ok (buf, n) => .ok (FirmwareIdentity.parse (buf.take n))
  | .error .rejected => .ok none
  | .error e => .error e

def identity : Control (Option FirmwareIdentity) :=
  ExceptT.mk (identityReply <$> (execIn (buildIdentityCdb memreadLen)).run)

/-- A feature's state is the first byte of a reply that has one. -/
def stateReply (reply : List UInt8 × ℕ) : Except FirmwareError UInt8 :=
  if reply.2 = 0 then .error .rejected else .ok (reply.1.headD 0)

def get (feature : Feature) : Control UInt8 := do
  let reply ← execIn (buildGetCdb feature)
  result (stateReply reply)

/-- The echoed state frame is not read. -/
def set (feature : Feature) (state : UInt8) : Control Unit := do
  let _ ← execIn (buildSetCdb feature state)
  pure ()

def reset : Control Unit := do
  let _ ← execIn (buildResetCdb resetToOem)
  pure ()

/-- Read a feature back and compare. -/
def verify (feature : Feature) (wanted : UInt8) : Control Unit := do
  let got ← get feature
  ensure (got = wanted) (.verifyFailed feature wanted got)

def setVerify (feature : Feature) (state : UInt8) : Control Unit := do
  set feature state
  verify feature state

/-- Every recipe first asks for a supported identity. -/
def requireSupported : Control Unit := do
  let id ← identity
  ensure (id.any (·.isSupported)) .unsupportedFirmware

/-! ## Recipes -/

/-- Revocation disabled only; the drive still runs the real handshake. -/
def armOemBd : Control Unit := do
  requireSupported
  setVerify .hrl stateOff

def armOemUhd : Control Unit := do
  requireSupported
  setVerify .unrestricted stateOn
  setVerify .hrl stateOff
  setVerify .encryption stateOff

def armBypassBd : Control Unit := do
  requireSupported
  setVerify .hrl stateOff
  setVerify .encryption stateOff

def armBypassUhd : Control Unit := do
  requireSupported
  setVerify .unrestricted stateOn
  setVerify .hrl stateOff
  setVerify .encryption stateOff

/-- Disarm: every feature back to passthrough, each one read back. -/
def armStealthOem : Control Unit := do
  requireSupported
  reset
  allFeatures.forM fun feature => verify feature statePassthrough

def arm : ArmRecipe → Control Unit
  | .oemBd => armOemBd
  | .oemUhd => armOemUhd
  | .bypassBd => armBypassBd
  | .bypassUhd => armBypassUhd
  | .stealthOem => armStealthOem

end FreemkvUnlock.Firmware
