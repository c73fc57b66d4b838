import FreemkvUnlock.Scsi

/-! # AGIDs in key commands

The AGID and key format of a command share its byte 10. An AGID is granted by the reply to an
allocation, and released by a clean-up command.
-/

namespace FreemkvUnlock

open Interaction

/-- Key format of a REPORT KEY or SEND KEY command. -/
def cdbFormat (cdb : List UInt8) : UInt8 := cdb.getD 10 0 &&& 0x3F

/-- AGID of a key command, bits 7-6 of byte 10. -/
def cdbAgid (cdb : List UInt8) : UInt8 := cdb.getD 10 0 >>> 6

def IsReportKey (cdb : List UInt8) (format : UInt8) : Prop :=
  cdb.headD 0 = scsiReportKey ∧ cdbFormat cdb = format

instance (cdb : List UInt8) (format : UInt8) : Decidable (IsReportKey cdb format) :=
  inferInstanceAs (Decidable (_ ∧ _))

theorem IsReportKey.format {cdb : List UInt8} {format : UInt8} (h : IsReportKey cdb format) :
    cdbFormat cdb = format := h.2

/-- A command that invalidates an AGID before an allocation. -/
def IsSweep (e : Event Scsi) : Prop :=
  match e.1 with
  | .execute cdb _ _ _ => IsReportKey cdb 0x3F
  | _ => False

/-- The AGID granted by an accepted allocation: a REPORT KEY of format 0, GOOD and not short. -/
def grantedAgid : Event Scsi → Option UInt8
  | ⟨.execute cdb _ data _, o⟩ =>
    match (o : Outcome data.length).result with
    | .ok r =>
      if IsReportKey cdb 0x00 ∧ r.status = 0 ∧ data.length ≤ r.bytesTransferred then
        some (o.data.toList.getD 7 0 >>> 6)
      else none
    | .error _ => none
  | _ => none

def IsCleanup (e : Event Scsi) : Prop :=
  match e.1 with
  | .executeCleanup .. => True
  | _ => False

theorem grantedAgid_execute {cdb data : List UInt8} {dir : DataDirection} {t : ℕ}
    (h : ¬ IsReportKey cdb 0x00) (o) : grantedAgid ⟨.execute cdb dir data t, o⟩ = none := by
  simp only [grantedAgid]
  split
  · rw [if_neg fun hc => h hc.1]
  · rfl

theorem grantedAgid_of_isCleanup {e : Event Scsi} (h : IsCleanup e) : grantedAgid e = none := by
  obtain ⟨o, r⟩ := e
  cases o with
  | executeCleanup => rfl
  | _ => exact h.elim

/-- A command that belongs to a session: a key or disc-structure command that neither asks for an
AGID nor invalidates one. -/
def IsSessionCommand (e : Event Scsi) : Prop :=
  match e.1 with
  | .execute cdb _ _ _ =>
    cdb.headD 0 ∈ [scsiReportKey, scsiSendKey, scsiReadDiscStructure] ∧
      ¬ IsReportKey cdb 0x00 ∧ ¬ IsReportKey cdb 0x3F
  | _ => False

/-- What may happen while an AGID is held: key and disc-structure commands that carry it, and
host randomness. -/
def InSession (agid : UInt8) (e : Event Scsi) : Prop :=
  match e.1 with
  | .execute cdb _ _ _ =>
    cdb.headD 0 ∈ [scsiReportKey, scsiSendKey, scsiReadDiscStructure] ∧ cdbAgid cdb = agid ∧
      ¬ IsReportKey cdb 0x00 ∧ ¬ IsReportKey cdb 0x3F
  | .fillBytes _ => True
  | _ => False

theorem grantedAgid_of_inSession {agid : UInt8} {e : Event Scsi} (h : InSession agid e) :
    grantedAgid e = none := by
  obtain ⟨o, r⟩ := e
  cases o with
  | execute cdb dir data t => exact grantedAgid_execute h.2.2.1 r
  | fillBytes n => rfl
  | _ => exact h.elim

theorem not_isCleanup_of_inSession {agid : UInt8} {e : Event Scsi} (h : InSession agid e) :
    ¬ IsCleanup e := by
  obtain ⟨o, r⟩ := e
  cases o <;> first | exact id | exact h.elim

theorem grantedAgid_of_isSessionCommand {e : Event Scsi} (h : IsSessionCommand e) :
    grantedAgid e = none := by
  obtain ⟨o, r⟩ := e
  cases o with
  | execute cdb dir data t => exact grantedAgid_execute h.2.1 r
  | _ => exact h.elim

theorem not_isCleanup_of_isSessionCommand {e : Event Scsi} (h : IsSessionCommand e) :
    ¬ IsCleanup e := by
  obtain ⟨o, r⟩ := e
  cases o <;> first | exact id | exact h.elim

theorem inSession_fillBytes {agid : UInt8} (n : ℕ) (r) : InSession agid ⟨.fillBytes n, r⟩ := trivial

theorem agidBits_table : ∀ a < 4, ∀ f < 256,
    ((UInt8.ofNat a <<< 6) ||| (UInt8.ofNat f &&& 0x3F)) >>> 6 = UInt8.ofNat a ∧
    ((UInt8.ofNat a <<< 6) ||| (UInt8.ofNat f &&& 0x3F)) &&& 0x3F = UInt8.ofNat f &&& 0x3F := by
  decide +kernel

theorem agid_lt_table : ∀ a < 256, (UInt8.ofNat a >>> 6) &&& (0x03 : UInt8) = UInt8.ofNat a >>> 6 ∧
    UInt8.ofNat a >>> 6 < 4 := by
  decide +kernel

theorem agid_of_byte (b : UInt8) : (b >>> 6) &&& (0x03 : UInt8) = b >>> 6 ∧ b >>> 6 < 4 := by
  simpa using agid_lt_table b.toNat b.toNat_lt

theorem agidBits {agid : UInt8} (h : agid < 4) (format : UInt8) :
    ((agid <<< 6) ||| (format &&& 0x3F)) >>> 6 = agid ∧
      ((agid <<< 6) ||| (format &&& 0x3F)) &&& 0x3F = format &&& 0x3F := by
  simpa using agidBits_table agid.toNat h format.toNat format.toNat_lt

end FreemkvUnlock
