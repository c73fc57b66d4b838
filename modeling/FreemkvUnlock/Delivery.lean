import FreemkvUnlock.Firmware
import FreemkvUnlock.Interaction.Relational
import FreemkvUnlock.Vid

/-! # Undelivered bytes

A command may transfer fewer bytes than its buffer holds, and a rejected one may leave anything in
it. What was there before and was not transferred has no meaning: no step may look at it.
-/

namespace FreemkvUnlock

open Interaction Fallible

/-- Outcomes that differ only in bytes that were not transferred by a GOOD command. -/
structure SameDelivery {n : ℕ} (o o' : Outcome n) : Prop where
  result : o.result = o'.result
  delivered : ∀ r, o.result = .ok r → r.status = 0 → ∀ i (h : i < n), i < r.bytesTransferred →
    o.data[i] = o'.data[i]

/-- Answers that differ only in bytes that were not transferred. -/
def Indistinct : (o : Op) → Scsi.Answer o → Scsi.Answer o → Prop
  | .execute _ _ data _, r, r' =>
    SameDelivery (r : Outcome data.length) (r' : Outcome data.length)
  | .executeCleanup _ _ data _, r, r' =>
    SameDelivery (r : Outcome data.length) (r' : Outcome data.length)
  | _, r, r' => r = r'

abbrev Blind {ε α : Type} (x : Fallible Scsi ε α) : Prop := Steady Indistinct x.run

section Outcomes

variable {n k : ℕ} {o o' : Outcome n} {r : ScsiResult}

theorem data_delivered (h : SameDelivery o o') (hr : o.result = .ok r) (hs : r.status = 0)
    (hn : n ≤ r.bytesTransferred) : o.data = o'.data :=
  Vector.ext fun i hi => h.delivered r hr hs i hi (by omega)

theorem extract_delivered (h : SameDelivery o o') (hr : o.result = .ok r) (hs : r.status = 0)
    {i : ℕ} (hk : k ≤ r.bytesTransferred) :
    o.data.toList.extract i k = o'.data.toList.extract i k := by
  refine List.ext_getElem (by simp) fun j hj hj' => ?_
  simp only [List.extract_eq_take_drop, List.length_take, List.length_drop,
    Vector.length_toList] at hj
  simp only [List.extract_eq_take_drop, List.getElem_take, List.getElem_drop, Vector.getElem_toList]
  exact h.delivered r hr hs (i + j) (by omega) (by omega)

theorem take_delivered (h : SameDelivery o o') (hr : o.result = .ok r) (hs : r.status = 0)
    (hk : k ≤ r.bytesTransferred) : o.data.toList.take k = o'.data.toList.take k := by
  simpa [List.extract_eq_take_drop] using extract_delivered h hr hs (i := 0) hk

end Outcomes

/-! ## Shared steps -/

section Shared

theorem steady_pause (ms : ℕ) : Steady Indistinct (Scsi.pause ms) := .ask fun _ _ => id

theorem steady_beginCritical : Steady Indistinct Scsi.beginCritical := .ask fun _ _ => id

theorem steady_endCritical : Steady Indistinct Scsi.endCritical := .ask fun _ _ => id

theorem steady_now : Steady Indistinct Scsi.now := .ask fun _ _ => id

theorem steady_fillBytes (n : ℕ) : Steady Indistinct (Scsi.fillBytes n) := .ask fun _ _ => id

theorem steady_drop (guard : AgidGuard) : Steady Indistinct guard.drop :=
  (Sim.ask (I := Scsi) (.executeCleanup _ _ _ _)).bind fun _ _ _ => .pure rfl

theorem blind_holding {ε α : Type} {guard : AgidGuard} {x : Fallible Scsi ε α} (hx : Blind x) :
    Blind (holding guard x) := by
  refine Steady.bind hx fun r => ?_
  cases r with
  | error e => exact (steady_drop guard).bind fun _ => .pure _
  | ok a => exact .pure _

theorem vidReply_same {o o' : Outcome vidStructLen} (h : SameDelivery o o') :
    vidReply o = vidReply o' := by
  unfold vidReply
  rw [← h.result]
  rcases hr : o.result with e | r
  · rfl
  · dsimp only
    by_cases hs : r.status = 0
    · by_cases hlen : r.bytesTransferred < 4 + 16
      · rw [if_pos hlen, if_pos hlen]
      · have hdata : (o.data.extract 4 20 : Vector UInt8 _) = o'.data.extract 4 20 := by
          refine Vector.ext fun i hi => ?_
          rw [Vector.getElem_extract, Vector.getElem_extract]
          exact h.delivered r hr hs _ _ (by omega)
        rw [hdata]
    · rw [if_pos hs, if_pos hs]

theorem blind_readAacsVid : Blind readAacsVid := .askResult fun _ _ h => vidReply_same h

end Shared

/-! ## Firmware control -/

namespace Firmware

open Protocol

variable {cdb : List UInt8} {feature : Feature} {state : UInt8}

/-- What a command's reader may use of its reply: the delivered bytes and their number. -/
def SameReply (reply reply' : List UInt8 × ℕ) : Prop :=
  reply.2 = reply'.2 ∧ reply.1.take reply.2 = reply'.1.take reply.2

theorem sim_execIn : Sim Indistinct (SameFailure SameReply) (execIn cdb).run (execIn cdb).run := by
  refine sim_askResult fun o o' h => ?_
  change SameDelivery (o : Outcome _) o' at h
  unfold inReply
  rw [← h.result]
  rcases hr : o.result with e | r
  · exact .error _
  · dsimp only
    split_ifs with hs
    · exact .ok ⟨rfl, take_delivered h hr hs (Nat.le_refl _)⟩
    · exact .error _

theorem blind_set : Blind (set feature state) :=
  Sim.seq (fun _ => rfl) sim_execIn fun _ _ _ => Steady.ret ()

theorem blind_reset : Blind reset :=
  Sim.seq (fun _ => rfl) sim_execIn fun _ _ _ => Steady.ret ()

theorem stateReply_same {reply reply' : List UInt8 × ℕ} (h : SameReply reply reply') :
    stateReply reply = stateReply reply' := by
  unfold stateReply
  rw [← h.1]
  split_ifs with hn
  · rfl
  · have htake := congrArg (List.headD · 0) h.2
    obtain ⟨n, hn⟩ := Nat.exists_eq_succ_of_ne_zero hn
    rw [hn] at htake
    rcases hl : reply.1 with _ | ⟨b, l⟩ <;> rcases hl' : reply'.1 with _ | ⟨b', l'⟩ <;>
      simp_all

theorem blind_get : Blind (get feature) := by
  refine Sim.seq (fun _ => rfl) sim_execIn fun reply reply' h => ?_
  rw [stateReply_same h]
  exact Steady.result _

theorem blind_verify : Blind (verify feature state) := .seq blind_get fun _ => .ensure

theorem blind_setVerify : Blind (setVerify feature state) := .seq blind_set fun _ => blind_verify

theorem blind_requireSupported : Blind requireSupported := by
  refine .seq (sim_execIn.map fun r r' h => ?_) fun _ => .ensure
  cases h with
  | error e => rfl
  | @ok reply reply' h =>
    obtain ⟨buf, n⟩ := reply
    obtain ⟨buf', n'⟩ := reply'
    obtain ⟨rfl : n = n', htake : buf.take n = buf'.take n⟩ := h
    exact congrArg (fun bytes => Except.ok (FirmwareIdentity.parse bytes)) htake

theorem blind_arm (recipe : ArmRecipe) : Blind (arm recipe) := by
  cases recipe with
  | oemBd => exact .seq blind_requireSupported fun _ => blind_setVerify
  | oemUhd | bypassUhd =>
    exact .seq blind_requireSupported fun _ => .seq blind_setVerify fun _ =>
      .seq blind_setVerify fun _ => blind_setVerify
  | bypassBd =>
    exact .seq blind_requireSupported fun _ => .seq blind_setVerify fun _ => blind_setVerify
  | stealthOem =>
    exact .seq blind_requireSupported fun _ => .seq blind_reset fun _ =>
      .forM (fun _ => blind_verify) _

end Firmware

end FreemkvUnlock
