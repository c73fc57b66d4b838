import Mathlib.Data.Nat.Notation
import FreemkvUnlock.Interaction.Prog

/-! # The SCSI transport contract

Every unlocker reaches the drive through these calls. A transport may answer each call with
anything of the right shape, so a run of an unlocker is a run against an arbitrary drive.
-/

namespace FreemkvUnlock

open Interaction

inductive DataDirection
  | none
  | fromDevice
  | toDevice
  deriving DecidableEq, Repr

structure ScsiResult where
  status : UInt8
  bytesTransferred : ℕ
  sense : Vector UInt8 32
  deriving DecidableEq

structure ScsiError where
  status : UInt8
  sense : Option (Vector UInt8 32)
  deriving DecidableEq

structure ScsiSense where
  senseKey : UInt8
  asc : UInt8
  ascq : UInt8
  deriving DecidableEq, Repr

def ScsiSense.fromBuf (sense : Vector UInt8 32) : ScsiSense where
  senseKey := sense[2] &&& 0x0F
  asc := sense[12]
  ascq := sense[13]

def scsiStatusTransportFailure : UInt8 := 0xFF

/-- A senseless transport failure, as opposed to a drive rejection. -/
def isDeadBus (e : ScsiError) : Bool :=
  e.status == scsiStatusTransportFailure && e.sense.isNone

def scsiSendKey : UInt8 := 0xA3
def scsiReportKey : UInt8 := 0xA4
def scsiReadDiscStructure : UInt8 := 0xAD
def aacsKeyClass : UInt8 := 0x02

/-! ## Calls that leave the crate -/

/-- An error of the Renesas hook code; only a dead transport is told apart from the rest. -/
inductive Fault
  | deadTransport
  | other
  deriving DecidableEq, Repr

inductive MemoryTransfer
  | dataIn (len : ℕ)
  | dataOut (bytes : List UInt8)
  deriving DecidableEq

def MemoryTransfer.length : MemoryTransfer → ℕ
  | .dataIn len => len
  | .dataOut bytes => bytes.length

def MemoryTransfer.Delivered : MemoryTransfer → Type
  | .dataIn len => Vector UInt8 len
  | .dataOut _ => Unit

inductive QuietOutcome
  | verified
  | unchanged
  | mismatch
  | unverified (source : Option ScsiError)
  | failed (source : Option ScsiError)
  deriving DecidableEq

/-- The transport's methods, the host's clock and random bytes, and two compound drive operations
of the Pioneer codec: a diagnostic memory transfer of exactly the named range, and the quiet
mode. -/
inductive Op
  | execute (cdb : List UInt8) (direction : DataDirection) (data : List UInt8) (timeoutMs : ℕ)
  | executeCleanup (cdb : List UInt8) (direction : DataDirection) (data : List UInt8)
      (timeoutMs : ℕ)
  | pause (ms : ℕ)
  | beginCritical
  | endCritical
  | now
  | fillBytes (n : ℕ)
  | diagnosticMemory (selector : UInt8) (offset : ℕ) (data : MemoryTransfer)
  | quietDrive
  deriving DecidableEq

/-- What a command leaves: its result and the caller's buffer. -/
structure Outcome (n : ℕ) where
  result : Except ScsiError ScsiResult
  data : Vector UInt8 n

def Op.Answer : Op → Type
  | .execute _ _ data _ => Outcome data.length
  | .executeCleanup _ _ data _ => Outcome data.length
  | .pause _ => Except ScsiError Unit
  | .beginCritical => Except ScsiError Unit
  | .endCritical => Unit
  | .now => ℕ
  | .fillBytes n => Vector UInt8 n
  | .diagnosticMemory _ _ data => Except Fault data.Delivered
  | .quietDrive => QuietOutcome

def Scsi : Interface := ⟨Op, Op.Answer⟩

namespace Scsi

def execute (cdb : List UInt8) (direction : DataDirection) (data : List UInt8)
    (timeoutMs : ℕ) : Prog Scsi (Outcome data.length) :=
  Prog.ask (I := Scsi) (.execute cdb direction data timeoutMs)

def executeCleanup (cdb : List UInt8) (direction : DataDirection) (data : List UInt8)
    (timeoutMs : ℕ) : Prog Scsi (Outcome data.length) :=
  Prog.ask (I := Scsi) (.executeCleanup cdb direction data timeoutMs)

/-- Wait between drive attempts; a cancelled host refuses. -/
def pause (ms : ℕ) : Prog Scsi (Except ScsiError Unit) := Prog.ask (I := Scsi) (.pause ms)

def fillBytes (n : ℕ) : Prog Scsi (Vector UInt8 n) := Prog.ask (I := Scsi) (.fillBytes n)

/-- Open a critical span; refused when the operation is already cancelled. -/
def beginCritical : Prog Scsi (Except ScsiError Unit) := Prog.ask (I := Scsi) .beginCritical

def endCritical : Prog Scsi Unit := Prog.ask (I := Scsi) .endCritical

/-- The host's clock, in nanoseconds from an arbitrary start. -/
def now : Prog Scsi ℕ := Prog.ask (I := Scsi) .now

def diagnosticMemory (selector : UInt8) (offset : ℕ) (data : MemoryTransfer) :
    Prog Scsi (Except Fault data.Delivered) :=
  Prog.ask (I := Scsi) (.diagnosticMemory selector offset data)

def quietDrive : Prog Scsi QuietOutcome := Prog.ask (I := Scsi) .quietDrive

end Scsi

/-! ## AGID guard -/

def agidReleaseTimeoutMs : ℕ := 5000

/-- An allocated AGID, with the command that releases it. -/
structure AgidGuard where
  agid : UInt8
  release : Vector UInt8 12

namespace AgidGuard

/-- Length of the release buffer: the command's allocation length, or 8 when it names none. -/
def releaseLen (guard : AgidGuard) : ℕ :=
  let alloc := guard.release[8].toNat <<< 8 ||| guard.release[9].toNat
  if alloc = 0 then 8 else alloc

/-- Dropping the guard releases the AGID; the outcome is ignored. -/
def drop (guard : AgidGuard) : Prog Scsi Unit := do
  let _ ← Scsi.executeCleanup guard.release.toList .fromDevice
    (List.replicate guard.releaseLen 0) agidReleaseTimeoutMs
  pure ()

end AgidGuard

/-- Run the steps of a held AGID: a failure drops the guard, which releases it. -/
def holding {ε α : Type} (guard : AgidGuard) (x : Fallible Scsi ε α) :
    Fallible Scsi ε (α × AgidGuard) := ExceptT.mk do
  match ← x.run with
  | .ok a => pure (.ok (a, guard))
  | .error e => do
    guard.drop
    pure (.error e)

end FreemkvUnlock
