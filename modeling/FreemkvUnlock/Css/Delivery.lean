import FreemkvUnlock.Css.Session
import FreemkvUnlock.Delivery

/-! # The bus authentication on undelivered bytes

A command asks for as many bytes as are read out of its reply. Those that ask for none have their
reply dropped.
-/

namespace FreemkvUnlock.Css

open Interaction Fallible

variable {cdb data : List UInt8} {dir : DataDirection} {minBytes : ℕ} {agid : UInt8}

theorem blind_cssScsi (h : data.length ≤ minBytes) : Blind (cssScsi cdb dir data minBytes) := by
  refine .askResult fun o o' hd => ?_
  change SameDelivery (o : Outcome data.length) o' at hd
  unfold cssReply
  rw [← hd.result]
  rcases hr : (o : Outcome data.length).result with e | r
  · rfl
  · dsimp only
    split_ifs with hs hlen
    · rfl
    · rfl
    · rw [data_delivered hd hr (of_not_not hs) (by omega)]

theorem sim_cssScsi : Sim Indistinct (SameFailure fun _ _ => True)
    (cssScsi cdb dir data minBytes).run (cssScsi cdb dir data minBytes).run := by
  refine sim_askResult fun o o' hd => ?_
  change SameDelivery (o : Outcome data.length) o' at hd
  unfold cssReply
  rw [← hd.result]
  rcases (o : Outcome data.length).result with e | r
  · exact .error _
  · dsimp only
    split_ifs
    · exact .error _
    · exact .error _
    · exact .ok trivial

theorem blind_cssScsi_bind {β : Type} {x : Session β} (hx : Blind x) :
    Blind (cssScsi cdb dir data minBytes >>= fun _ => x) :=
  Sim.seq (fun _ => rfl) sim_cssScsi fun _ _ _ => hx

theorem steady_invalidateAgid : Steady Indistinct (invalidateAgid agid) :=
  (Sim.ask (I := Scsi) (.execute _ _ _ _)).bind fun _ _ _ => .pure rfl

theorem blind_allocateAgid : Blind allocateAgid := .seq (blind_cssScsi (by simp)) fun _ => .ret _

theorem blind_authenticateWithAgid : Blind (authenticateWithAgid agid) := by
  refine .seq (.lift (steady_fillBytes _)) fun hostChallenge => blind_cssScsi_bind ?_
  refine .seq (blind_cssScsi (by simp)) fun dkBuf => .seq (.result _) fun variant => ?_
  exact .seq (blind_cssScsi (by simp)) fun dcBuf => blind_cssScsi_bind (.ret _)

theorem blind_establishAuthenticatedSession : Blind establishAuthenticatedSession := by
  refine .seq (.lift (.bind steady_invalidateAgid fun _ => .bind steady_invalidateAgid fun _ =>
    .bind steady_invalidateAgid fun _ => steady_invalidateAgid)) fun _ => ?_
  refine .seq blind_allocateAgid fun agid => ?_
  exact .seq (blind_holding blind_authenticateWithAgid) fun ⟨_, _⟩ => .ret _

theorem blind_unlockCssReads : Blind unlockCssReads :=
  .seq blind_establishAuthenticatedSession fun _ =>
    .lift (.bind (blind_cssScsi_bind (.ret _)) fun _ => .pure _)

theorem profileReply_same {o o' : Outcome 8} (h : SameDelivery o o') :
    profileReply o = profileReply o' := by
  unfold profileReply
  rw [← h.result]
  rcases hr : o.result with e | r
  · rfl
  · dsimp only
    split_ifs with hok
    · rw [data_delivered h hr hok.1 hok.2]
    · rfl

theorem blind_unlock : Blind unlock := by
  refine .seq (.askResult fun _ _ h => profileReply_same h) fun dvd => ?_
  cases dvd with
  | false => exact .ret _
  | true => exact Steady.bind blind_unlockCssReads.mapErr fun _ => .pure _

end FreemkvUnlock.Css
