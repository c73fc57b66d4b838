import FreemkvUnlock.Ld.Mt1959

/-! # Waiting for the medium

After an upload the drive restarts and takes its time to find the disc. TEST UNIT READY is polled
until it answers ready, gives an answer that no waiting changes, or makes no progress for the
readiness window; a new answer and the one START STOP UNIT count as progress. Every outcome keeps
the unlock.
-/

namespace FreemkvUnlock.Ld

open Interaction Fallible

def readyPollMs : ℕ := 500
def turTimeoutMs : ℕ := 5000
def readyMaxEmptyPolls : ℕ := 10

def startUnitCdb : List UInt8 := [0x1B, 0x00, 0x00, 0x00, 0x01, 0x00]
def startUnitTimeoutMs : ℕ := 30000

inductive MediaReady
  | ready
  | noMedium
  | incompatible (asc ascq : UInt8)
  | driveError (senseKey asc ascq : UInt8)
  | stalled (senseKey asc ascq : UInt8)
  deriving DecidableEq

/-- What the poll remembers of the answers so far. -/
structure Poll where
  seen : List ScsiSense
  lastProgress : ℕ
  startSent : Bool
  emptyRun : ℕ
  becomingReadySeen : Bool

namespace Poll

variable (poll : Poll) (answer : ScsiSense)

/-- Count an answer towards an empty drive, and a drive becoming ready against it. -/
def note : Poll := { poll with
  emptyRun := if answer.senseKey = 0x02 ∧ answer.asc = 0x3A then poll.emptyRun + 1 else 0
  becomingReadySeen := poll.becomingReadySeen || answer == ⟨0x02, 0x04, 0x01⟩ }

def outcome : Option MediaReady :=
  if ¬ poll.becomingReadySeen ∧ readyMaxEmptyPolls ≤ poll.emptyRun then some .noMedium
  else if answer.senseKey = 0x02 ∧ answer.asc = 0x30 then
    some (.incompatible 0x30 answer.ascq)
  else if 0x03 ≤ answer.senseKey ∧ answer.senseKey ≤ 0x05 then
    some (.driveError answer.senseKey answer.asc answer.ascq)
  else none

end Poll

/-- The sense of a drive that is not ready. A transport may report it as an error that carries
it; only an error without a sense ends the poll. -/
def turReply (o : Outcome 0) : Except Error (Option (Vector UInt8 32)) :=
  match o.result with
  | .ok r => if r.status = 0 then .ok none else .ok (some r.sense)
  | .error e => match e.sense with
    | some sense => .ok (some sense)
    | none => .error (.ofScsiError e)

def testUnitReady : Step (Option (Vector UInt8 32)) := do
  let o ← ExceptT.lift (Scsi.execute [scsiTestUnitReady, 0, 0, 0, 0, 0] .none [] turTimeoutMs)
  result (turReply o)

/-- START STOP UNIT, whose rejection is ignored. -/
def startUnitReply (o : Outcome 0) : Except Error Unit :=
  match o.result with
  | .ok _ => .ok ()
  | .error e => if e.sense = none then .error (.ofScsiError e) else .ok ()

def startUnit : Step Unit := do
  let o ← ExceptT.lift (Scsi.execute startUnitCdb .none [] startUnitTimeoutMs)
  result (startUnitReply o)

/-- Steps of the poll. -/
abbrev Polling (α : Type) : Type := Stateful Scsi Poll Error α

/-- A drive that waits for the initializing command is sent it once. -/
def startOnce (clock : Clock) (answer : ScsiSense) : Polling Unit := do
  let poll ← get
  if answer = ⟨0x02, 0x04, 0x02⟩ ∧ poll.startSent = false then
    let t ← Stateful.lift clock.elapsed
    set { poll with startSent := true, lastProgress := t }
    Stateful.lift startUnit
  else pure ()

/-- Progress is an answer not seen before; too long without it is a stall. -/
def progress (clock : Clock) (answer : ScsiSense) : Polling (Option MediaReady) := do
  let poll ← get
  let t ← Stateful.lift clock.elapsed
  if answer ∉ poll.seen then
    set { poll with seen := poll.seen ++ [answer], lastProgress := t }
    return none
  else if readyStall ≤ t - poll.lastProgress then
    return some (.stalled answer.senseKey answer.asc answer.ascq)
  else return none

/-- One poll and the wait after it. -/
def pollOnce (clock : Clock) : Polling (Option MediaReady) := do
  match ← Stateful.lift testUnitReady with
  | none => return some .ready
  | some sense => do
    let answer := ScsiSense.fromBuf sense
    let poll ← get
    set (poll.note answer)
    match (poll.note answer).outcome answer with
    | some outcome => return some outcome
    | none => do
      startOnce clock answer
      match ← progress clock answer with
      | some outcome => return some outcome
      | none => do
        Stateful.lift (wait readyPollMs)
        return none

def awaitMediaReady (fuel : ℕ) (clock : Clock) : Step MediaReady := do
  let t ← clock.elapsed
  Stateful.eval (Stateful.retry (pollOnce clock) fuel) ⟨[], t, false, 0, false⟩

end FreemkvUnlock.Ld
