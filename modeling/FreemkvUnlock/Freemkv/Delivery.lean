import FreemkvUnlock.Delivery
import FreemkvUnlock.Freemkv.Outcome

/-! # Flashed firmware on undelivered bytes

The identity is parsed from the transferred bytes, and of a SET nothing but the status counts, so
a run over flashed firmware is blind from its probe on.
-/

namespace FreemkvUnlock.Freemkv

open Interaction Fallible Protocol

theorem probeReply_same {o o' : Outcome memreadLen} (h : SameDelivery o o') :
    probeReply o = probeReply o' := by
  unfold probeReply
  rw [← h.result]
  rcases hr : o.result with e | r
  · rfl
  · dsimp only
    by_cases hs : r.status = 0 ∧ r.bytesTransferred ≤ memreadLen
    · rw [if_pos hs, if_pos hs, take_delivered h hr hs.1 le_rfl]
    · rw [if_neg hs, if_neg hs]

section Preinstalled

variable {c : Capabilities} {feature : Feature} {state : UInt8}

theorem blind_setChecked : Blind (setChecked (preinstalled c) feature state) := by
  refine .askResult fun o o' h => ?_
  change SameDelivery (o : Outcome minAllocLen) o' at h
  unfold setReply
  rw [← h.result]
  rfl

theorem blind_setBestEffort (setting : Feature × UInt8) :
    Blind (setBestEffort (preinstalled c) setting) := by
  unfold setBestEffort
  split_ifs
  · refine Steady.bind blind_setChecked fun r => ?_
    rcases r with e | _
    · cases e <;> exact .pure _
    · exact .pure _
  · exact .ret ()

theorem blind_activateBackend : Blind (activateBackend (preinstalled c) ()) := by
  refine .seq (.seq (.forM blind_setBestEffort _) fun _ => ?_) fun _ => ?_
  · exact .seq .ensure fun _ => .mapErr blind_setChecked
  · exact .seq (.ret ()) fun _ => .seq blind_readAacsVid fun _ => .ret _

theorem blind_criticalSpan {α : Type} {body : Prog Scsi α} (hb : Steady Indistinct body) :
    Blind (criticalSpan body) :=
  .seq (.lift steady_beginCritical) fun _ => .seq (.result _) fun _ => .seq (.lift hb) fun _ =>
    .seq (.lift steady_endCritical) fun _ => .ret _

theorem blind_unlockBackend : Blind (unlockBackend (preinstalled c) () true) := by
  unfold unlockBackend
  rw [transaction_preinstalled]
  refine .seq (blind_criticalSpan blind_activateBackend.map) fun finished => ?_
  refine .seq (.result _) fun r => .seq ?_ fun _ => ?_
  · exact .seq (.lift (steady_pause 0)) fun _ => .result _
  · split_ifs
    · exact .seq (.ret ()) fun _ => .result _
    · exact .result _

end Preinstalled

/-! ## The unlocker -/

def identityOp : Op :=
  .execute (buildIdentityCdb memreadLen) .fromDevice (List.replicate memreadLen 0) 5000

def Flashed {T : Type} (h : Handler Scsi T) (t : T) : Prop :=
  ∃ id, probeReply (h identityOp t).1 = .ok (some id) ∧ id.capabilities.implementation = .firmware

/-- The probe alone selects flashed firmware. -/
theorem selectBackend_eq (U : FreemkvUnlocker) (driveId : DriveId) :
    ∃ g : Option ProtocolIdentity → Step Selection, U.selectBackend driveId = probe >>= g ∧
      ∀ id, id.capabilities.implementation = .firmware →
        g (some id) = pure (.preinstalled id.capabilities) :=
  ⟨_, rfl, fun _ h => if_pos h⟩

/-- Over flashed firmware the probe is followed by the sequence without an installation. -/
theorem unlock_call (U : FreemkvUnlocker) (driveId : DriveId) :
    ∃ k : Outcome memreadLen → Prog Scsi (Except UnlockError (Option Unlocked)),
      (U.unlock driveId).run = .call (I := Scsi) identityOp k ∧
      ∀ o id, probeReply o = .ok (some id) → id.capabilities.implementation = .firmware →
        k o = fallthrough <$> (unlockBackend (preinstalled id.capabilities) () true).run := by
  obtain ⟨g, hg, hfirmware⟩ := selectBackend_eq U driveId
  refine ⟨fun o => fallthrough <$> ((result (probeReply o) >>= g) >>= U.runSelected).run, ?_,
    fun o id ho hid => ?_⟩
  · change fallthrough <$> (U.selectBackend driveId >>= U.runSelected).run = _
    rw [hg]
    rfl
  · dsimp only
    rw [ho]
    change fallthrough <$> (g (some id) >>= U.runSelected).run = _
    rw [hfirmware id hid]
    rfl

end FreemkvUnlock.Freemkv
