import FreemkvUnlock.Aacs.Ecdsa

/-! # Handshake commands

Errors of the handshake, the command descriptor blocks, and the two transfer routines every
step goes through: a read succeeds only on a GOOD reply that is not short.
-/

namespace FreemkvUnlock.Aacs

open Interaction

inductive Error
  | aacsAgidAlloc
  | aacsCertRead
  | aacsCertRejected
  | aacsCertShort
  | aacsCertVerify
  | aacsDataKey
  | aacsKeyRead
  | aacsKeyRejected
  | aacsKeyVerify
  | aacsHostSignVerify
  | aacsNoKeys
  | aacsVidMac
  | aacsVidRead
  | handshakeRejected
  | vidUnavailable
  | shortTransfer (opcode : UInt8) (expected got : ℕ)
  | scsi (opcode status : UInt8) (sense : Option ScsiSense)
  deriving DecidableEq

namespace Error

/-- Stable numeric code. -/
def code : Error → ℕ
  | aacsAgidAlloc => 7001
  | aacsCertRead => 7002
  | aacsCertRejected => 7003
  | aacsCertShort => 7004
  | aacsCertVerify => 7005
  | aacsDataKey => 7006
  | aacsKeyRead => 7007
  | aacsKeyRejected => 7008
  | aacsKeyVerify => 7009
  | aacsHostSignVerify => 7016
  | aacsNoKeys => 7010
  | aacsVidMac => 7011
  | aacsVidRead => 7012
  | handshakeRejected => 7013
  | vidUnavailable => 7014
  | shortTransfer .. => 7015
  | scsi .. => 7099

/-- True for a dead bus. -/
def isScsiTransportFailure : Error → Bool
  | scsi _ status none => status == scsiStatusTransportFailure
  | _ => false

/-- A transport error converts with an unknown opcode and its sense parsed. -/
def ofScsiError (e : ScsiError) : Error := .scsi 0 e.status (e.sense.map ScsiSense.fromBuf)

end Error

/-- Steps of the handshake. -/
abbrev Session (α : Type) : Type := Fallible Scsi Error α

/-- Keep a dead bus, replace any other error by the step's own. -/
def handshakeErr (err fallback : Error) : Error :=
  if err.isScsiTransportFailure then err else fallback

def checkStatus (cdb : List UInt8) (r : ScsiResult) : Except Error Unit :=
  if r.status = 0 then .ok ()
  else .error (.scsi (cdb.headD 0) r.status (some (ScsiSense.fromBuf r.sense)))

/-- What a read makes of its outcome: the whole buffer of a GOOD reply that is not short. -/
def readReply {len : ℕ} (cdb : List UInt8) (o : Outcome len) : Except Error (List UInt8) := do
  let r ← o.result.mapError Error.ofScsiError
  checkStatus cdb r
  if r.bytesTransferred < len then
    .error (.shortTransfer (cdb.headD 0) len r.bytesTransferred)
  else pure o.data.toList

/-- What a write makes of its outcome. -/
def writeReply {len : ℕ} (cdb : List UInt8) (o : Outcome len) : Except Error Unit := do
  let r ← o.result.mapError Error.ofScsiError
  checkStatus cdb r

/-- Read exactly `len` bytes with one command. -/
def scsiRead (cdb : List UInt8) (len : ℕ) : Session (List UInt8) := do
  let o ← ExceptT.lift (Scsi.execute cdb .fromDevice (List.replicate len 0) 5000)
  Fallible.result (readReply cdb o)

def scsiWrite (cdb data : List UInt8) : Session Unit := do
  let o ← ExceptT.lift (Scsi.execute cdb .toDevice data 5000)
  Fallible.result (writeReply cdb o)

section Replies

variable {cdb : List UInt8} {len : ℕ} {o : Outcome len}

theorem readReply_ok_iff {bytes : List UInt8} :
    readReply cdb o = .ok bytes ↔
      ∃ r, o.result = .ok r ∧ r.status = 0 ∧ len ≤ r.bytesTransferred ∧ bytes = o.data.toList := by
  unfold readReply checkStatus
  rcases o.result with e | r
  · simp [Except.mapError, bind, Except.bind]
  · simp only [Except.mapError, bind, Except.bind, Except.ok.injEq, exists_eq_left']
    split_ifs with hs hl
    · simp [hl]
    · simp only [hs, true_and, pure, Except.pure, Except.ok.injEq]
      exact ⟨fun h => ⟨by omega, h.symm⟩, fun h => h.2.symm⟩
    · simp [hs]

theorem writeReply_ok_iff {u : Unit} :
    writeReply cdb o = .ok u ↔ ∃ r, o.result = .ok r ∧ r.status = 0 := by
  unfold writeReply checkStatus
  rcases o.result with e | r
  · simp [Except.mapError, bind, Except.bind]
  · simp only [Except.mapError, bind, Except.bind, Except.ok.injEq, exists_eq_left']
    split_ifs with hs <;> simp [hs]

variable {τ : List (Event Scsi)}

theorem run_scsiRead_iff {r : Except Error (List UInt8)} :
    Run (scsiRead cdb len).run τ r ↔
      ∃ o : Outcome (List.replicate len (0 : UInt8)).length,
        τ = [⟨.execute cdb .fromDevice (List.replicate len 0) 5000, o⟩] ∧ r = readReply cdb o :=
  run_ask_result_iff

theorem run_scsiWrite_iff {data : List UInt8} {r : Except Error Unit} :
    Run (scsiWrite cdb data).run τ r ↔
      ∃ o : Outcome data.length,
        τ = [⟨.execute cdb .toDevice data 5000, o⟩] ∧ r = writeReply cdb o :=
  run_ask_result_iff

end Replies

/-! ## Command descriptor blocks -/

/-- A key command: REPORT KEY or SEND KEY with the AACS key class. -/
def cdbKey (opcode agid format : UInt8) (len : UInt16) : Vector UInt8 12 :=
  #v[opcode, 0, 0, 0, 0, 0, 0, aacsKeyClass, (len >>> 8).toUInt8, (len &&& 0xFF).toUInt8,
    (agid <<< 6) ||| (format &&& 0x3F), 0]

def cdbReportKey (agid format : UInt8) (len : UInt16) : Vector UInt8 12 :=
  cdbKey scsiReportKey agid format len

def cdbSendKey (agid format : UInt8) (len : UInt16) : Vector UInt8 12 :=
  cdbKey scsiSendKey agid format len

/-- REPORT DISC STRUCTURE for Blu-ray. -/
def cdbReportDiscStructure (agid format : UInt8) (len : UInt16) : Vector UInt8 12 :=
  #v[scsiReadDiscStructure, 0x01, 0, 0, 0, 0, 0, format, (len >>> 8).toUInt8,
    (len &&& 0xFF).toUInt8, agid <<< 6, 0]

/-- The guard of an allocated AGID, released by key format 3Fh. -/
def agidGuard (agid : UInt8) : AgidGuard := ⟨agid, cdbReportKey agid 0x3F 2⟩

theorem releaseLen_agidGuard (agid : UInt8) : (agidGuard agid).releaseLen = 2 := by
  simp [AgidGuard.releaseLen, agidGuard, cdbReportKey, cdbKey]

/-! ## Message authentication -/

/-- The CMAC subkey: `l` doubled in the field of AES-CMAC, byte by byte. -/
def cmacSubkey (l : Vector UInt8 16) : Vector UInt8 16 :=
  let carry := (l[0] >>> 7) &&& 1
  let k1 : Vector UInt8 16 := Vector.ofFn fun i =>
    if h : i.val + 1 < 16 then (l[i] <<< 1) ||| (l[i.val + 1] >>> 7) else l[i] <<< 1
  if carry = 1 then k1.set 15 (k1[15] ^^^ 0x87) else k1

/-- AES-CMAC of one full block. -/
def aesCmac16 (c : Crypto) (data key : Vector UInt8 16) : Vector UInt8 16 :=
  let l := c.aesEncrypt key (Vector.replicate 16 0)
  let k1 := cmacSubkey l
  c.aesEncrypt key (Vector.ofFn fun i => data[i] ^^^ k1[i])

/-- AES-ECB decryption of one block. -/
def aesEcbDecrypt (c : Crypto) (key data : Vector UInt8 16) : Vector UInt8 16 :=
  c.aesDecrypt key data

/-- Equality of MACs by accumulated difference. -/
def ctEq16 (a b : Vector UInt8 16) : Bool :=
  (List.finRange 16).foldl (fun diff i => diff ||| (a[i] ^^^ b[i])) (0 : UInt8) == 0

theorem ctEq16_self (x : Vector UInt8 16) : ctEq16 x x = true := by
  unfold ctEq16
  simp

end FreemkvUnlock.Aacs
