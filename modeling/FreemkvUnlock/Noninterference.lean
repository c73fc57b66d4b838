import FreemkvUnlock.Aacs.Delivery
import FreemkvUnlock.Css.Delivery
import FreemkvUnlock.Freemkv.Delivery
import FreemkvUnlock.Ld.Delivery

/-! # Only transferred bytes matter

Two drives that give the same answers up to bytes they do not transfer cannot be told apart by an
unlocker: it issues the same calls to both and returns the same outcome.
-/

namespace FreemkvUnlock

open Interaction Fallible

variable {T T' ε α : Type} {h : Handler Scsi T} {h' : Handler Scsi T'} {B : T → T' → Prop}
  {t : T} {t' : T'}

/-- From related states every call is answered the same, up to bytes that are not transferred, and
leads to related states. -/
def Agree (h : Handler Scsi T) (h' : Handler Scsi T') (B : T → T' → Prop) : Prop :=
  ∀ o t t', B t t' → Indistinct o (h o t).1 (h' o t').1 ∧ B (h o t).2 (h' o t').2

/-- Both runs diverge, or they issue the same calls and return the same outcome. -/
def SameOutcome (h : Handler Scsi T) (h' : Handler Scsi T') (t : T) (t' : T')
    (x : Fallible Scsi ε α) : Prop :=
  Option.Rel (SameRun Eq) (exec h x.run t) (exec h' x.run t')

theorem Blind.sameOutcome {x : Fallible Scsi ε α} (hx : Blind x) (hB : Agree h h' B)
    (ht : B t t') : SameOutcome h h' t t' x :=
  hx.exec hB ht

theorem Freemkv.sameOutcome_flashed (hB : Agree h h' B) (ht : B t t')
    (hflashed : Flashed h t) (U : FreemkvUnlocker) (driveId : DriveId) :
    SameOutcome h h' t t' (U.unlock driveId) := by
  obtain ⟨id, hprobe, himpl⟩ := hflashed
  obtain ⟨k, hcall, hk⟩ := unlock_call U driveId
  obtain ⟨hsame, hnext⟩ := hB identityOp t t' ht
  have hprobe' : probeReply (h' identityOp t').1 = .ok (some id) :=
    (probeReply_same hsame).symm.trans hprobe
  unfold SameOutcome
  rw [hcall]
  refine sameRun_call ?_
  rw [hk _ id hprobe himpl, hk _ id hprobe' himpl]
  exact Sim.exec blind_unlockBackend.map hB hnext

/-- Undelivered bytes change neither the calls nor the outcome of an unlocker; for the one that
selects a backend, over flashed firmware. -/
theorem sameOutcome_unlock (hB : Agree h h' B) (ht : B t t') :
    (∀ (U : Aacs.AacsUnlocker) (c : Aacs.Crypto) (fuel : ℕ) (ctx : UnlockCtx),
      SameOutcome h h' t t' (U.unlock c fuel ctx)) ∧
    SameOutcome h h' t t' Css.unlock ∧
    (∀ (catalog : Option Ld.Profiles) (fuel : ℕ) (ctx : UnlockCtx),
      SameOutcome h h' t t' (Ld.unlock catalog fuel ctx)) ∧
    (Freemkv.Flashed h t → ∀ (U : Freemkv.FreemkvUnlocker) (driveId : DriveId),
      SameOutcome h h' t t' (U.unlock driveId)) :=
  ⟨fun _ _ _ _ => Aacs.AacsUnlocker.blind_unlock.sameOutcome hB ht,
    Css.blind_unlock.sameOutcome hB ht, fun _ _ _ => Ld.blind_unlock.sameOutcome hB ht,
    fun hflashed => Freemkv.sameOutcome_flashed hB ht hflashed⟩

/-- A drive that answers the identity probe as flashed firmware, and any other command GOOD with
nothing transferred and its buffer full of `junk`. -/
def junkDrive (junk : UInt8) : Handler Scsi Unit
  | .execute cdb dir data ms, s =>
    if cdb = Protocol.buildIdentityCdb Protocol.memreadLen then
      Freemkv.repliesWith (Freemkv.banner 0x39) 0 (.execute cdb dir data ms) s
    else (⟨.ok ⟨0, 0, Vector.replicate 32 0⟩, Vector.replicate data.length junk⟩, s)
  | o, s => Freemkv.repliesWith [] 0 o s

theorem agree_junkDrive (junk junk' : UInt8) :
    Agree (junkDrive junk) (junkDrive junk') fun _ _ => True := by
  rintro o ⟨⟩ ⟨⟩ -
  refine ⟨?_, trivial⟩
  cases o with
  | execute cdb dir data ms =>
    change SameDelivery (junkDrive junk (.execute cdb dir data ms) ()).1
      (junkDrive junk' (.execute cdb dir data ms) ()).1
    unfold junkDrive
    dsimp only
    split_ifs
    · exact ⟨rfl, fun _ _ _ _ _ _ => rfl⟩
    · refine ⟨rfl, fun r hr _ i _ hi => ?_⟩
      obtain rfl := Except.ok.inj hr
      exact absurd hi (Nat.not_lt_zero i)
  | executeCleanup => exact ⟨rfl, fun _ _ _ _ _ _ => rfl⟩
  | _ => rfl

theorem sameOutcome_unlock_junk :
    SameOutcome (junkDrive 0x00) (junkDrive 0xFF) () ()
      (Freemkv.bareUnlocker.unlock Freemkv.blankDrive) ∧
    SameOutcome (junkDrive 0x00) (junkDrive 0xFF) () () Css.unlock := by
  have hB := agree_junkDrive 0x00 0xFF
  have hflashed : Freemkv.Flashed (junkDrive 0x00) () :=
    ⟨⟨⟨[0x30, 0x2E, 0x39]⟩, ⟨.firmware⟩⟩, by decide +kernel, rfl⟩
  have hsame := @sameOutcome_unlock _ _ _ _ _ () () hB trivial
  exact ⟨hsame.2.2.2 hflashed _ _, hsame.2.1⟩

end FreemkvUnlock
