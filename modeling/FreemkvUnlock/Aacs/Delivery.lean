import FreemkvUnlock.Aacs.Unlocker
import FreemkvUnlock.Delivery

/-! # The handshake on undelivered bytes

Every read of the handshake refuses a short transfer, so it yields delivered bytes only; the
unlocker as a whole is then blind to the rest, rule by rule.
-/

namespace FreemkvUnlock.Aacs

open Interaction Fallible

section Sessions

variable {c : Crypto} {fuel len : ℕ} {la : Anchors} {cdb data : List UInt8}

theorem readReply_same {o o' : Outcome len} (h : SameDelivery o o') :
    readReply cdb o = readReply cdb o' := by
  unfold readReply checkStatus
  rw [← h.result]
  rcases hr : o.result with e | r
  · rfl
  · simp only [Except.mapError, bind, Except.bind]
    by_cases hs : r.status = 0
    · rw [if_pos hs]
      by_cases hlen : r.bytesTransferred < len
      · simp only [if_pos hlen]
      · rw [data_delivered h hr hs (by omega)]
    · simp only [if_neg hs]

theorem blind_scsiRead : Blind (scsiRead cdb len) := by
  refine .askResult fun o o' h => ?_
  exact readReply_same (h : SameDelivery (o : Outcome _) o')

theorem blind_scsiWrite : Blind (scsiWrite cdb data) := by
  refine .askResult fun o o' h => ?_
  change SameDelivery (o : Outcome _) o' at h
  unfold writeReply
  rw [h.result]

theorem steady_ecdsaSign {k : Vector UInt8 20} {data : List UInt8} :
    Steady Indistinct (ecdsaSign c fuel k data) :=
  .retry (.bind (steady_fillBytes _) fun _ => .pure _) fuel

theorem steady_ecdsaSignP256 {k : Vector UInt8 32} {data : List UInt8} :
    Steady Indistinct (ecdsaSignP256 c fuel k data) :=
  .retry (.bind (steady_fillBytes _) fun _ => .pure _) fuel

theorem steady_generateHostKeyPair : Steady Indistinct (generateHostKeyPair fuel) :=
  .retry (.bind (steady_fillBytes _) fun _ => .pure _) fuel

theorem steady_generateHostKeyPairP256 : Steady Indistinct (generateHostKeyPairP256 fuel) :=
  .retry (.bind (steady_fillBytes _) fun _ => .pure _) fuel

theorem blind_aacsAuthenticateWithAgid {agid : UInt8} {k : Vector UInt8 20} {cert : List UInt8} :
    Blind (aacsAuthenticateWithAgid c fuel agid k cert la) := by
  refine .seq (.lift (steady_fillBytes _)) fun nonce => ?_
  refine .seq (.lift steady_generateHostKeyPair) fun ⟨key, x, y⟩ => ?_
  refine .seq (.mapErr (.mapErr blind_scsiWrite)) fun _ => ?_
  refine .seq (.mapErr (.mapErr blind_scsiRead)) fun certReply => ?_
  refine .seq (.result _) fun _ => ?_
  refine .seq (.mapErr (.mapErr blind_scsiRead)) fun keyReply => ?_
  refine .seq .ensure fun _ => ?_
  refine .seq (.lift steady_ecdsaSign) fun ⟨r, s⟩ => ?_
  refine .seq .ensure fun _ => ?_
  refine .seq (.mapErr (.mapErr blind_scsiWrite)) fun _ => ?_
  exact .seq (.result _) fun _ => .ret _

theorem blind_aacs2AuthenticateP256WithAgid {agid : UInt8} {k : Vector UInt8 32}
    {cert : List UInt8} : Blind (aacs2AuthenticateP256WithAgid c fuel agid k cert la) := by
  refine .seq (.lift (steady_fillBytes _)) fun nonce => ?_
  refine .seq (.lift steady_generateHostKeyPairP256) fun ⟨key, x, y⟩ => ?_
  refine .seq (.mapErr blind_scsiWrite) fun _ => ?_
  refine .seq (.mapErr blind_scsiRead) fun certReply => ?_
  refine .seq (.result _) fun _ => ?_
  refine .seq (.mapErr blind_scsiRead) fun keyReply => ?_
  refine .seq .ensure fun _ => ?_
  refine .seq (.lift steady_ecdsaSignP256) fun ⟨r, s⟩ => ?_
  refine .seq .ensure fun _ => ?_
  refine .seq (.mapErr blind_scsiWrite) fun _ => ?_
  exact .seq (.result _) fun _ => .ret _

theorem steady_invalidateAgids (agids : List UInt8) :
    Steady Indistinct (invalidateAgids agids) := by
  induction agids with
  | nil => exact .pure _
  | cons agid agids ih => exact .bind blind_scsiRead fun _ => ih

theorem blind_withAllocatedAgid {ε : Type} {f : Error → ε}
    {authenticate : UInt8 → Fallible Scsi ε AacsAuth} (h : ∀ agid, Blind (authenticate agid)) :
    Blind (withAllocatedAgid f authenticate) :=
  .seq (.lift (steady_invalidateAgids _)) fun _ =>
    .seq (.mapErr (.seq (.mapErr blind_scsiRead) fun _ => .ret _))
      fun agid => blind_holding (h agid)

theorem blind_aacs1Ake {k : Vector UInt8 20} {cert : List UInt8} :
    Blind (aacs1Ake c fuel k cert la) :=
  .seq .ensure fun _ => blind_withAllocatedAgid fun _ => blind_aacsAuthenticateWithAgid

theorem blind_aacs2AuthenticateP256WithAnchor {k : Vector UInt8 32} {cert : List UInt8} :
    Blind (aacs2AuthenticateP256WithAnchor c fuel k cert la) :=
  .seq .ensure fun _ => blind_withAllocatedAgid fun _ => blind_aacs2AuthenticateP256WithAgid

theorem blind_readVolumeId {auth : AacsAuth} : Blind (readVolumeId c auth) :=
  .seq (.mapErr blind_scsiRead) fun _ => .seq .ensure fun _ => .ret _

theorem blind_readDataKeys {auth : AacsAuth} : Blind (readDataKeys c auth) :=
  .seq (.mapErr blind_scsiRead) fun _ => .seq .ensure fun _ => .ret _

theorem blind_finishReads {auth : AacsAuth} : Blind (finishReads c auth) := by
  refine .seq (.mapErr blind_readVolumeId) fun ⟨vid, auth'⟩ => ?_
  dsimp only
  split_ifs
  · refine .seq (.lift blind_readDataKeys) fun r => ?_
    rcases r with e | ⟨⟨rdk, wdk⟩, auth''⟩
    · dsimp only
      split_ifs
      · exact .throw _
      · exact .ret _
    · exact .ret _
  · exact .ret _

theorem blind_finishAuth {guard : AgidGuard} {auth : AacsAuth} :
    Blind (finishAuth c guard auth) :=
  Steady.bind blind_finishReads fun _ => (steady_drop guard).bind fun _ => .pure _

theorem steady_attemptP256 {hc : HostCert} {dead : Bool} :
    Steady Indistinct (attemptP256 c fuel hc la dead) := by
  unfold attemptP256
  split
  · refine Steady.bind blind_aacs2AuthenticateP256WithAnchor fun r => ?_
    rcases r with e | ⟨auth, guard⟩
    · exact .pure _
    · exact blind_finishAuth.map
  · exact .pure _

theorem steady_attemptV1 {hc : HostCert} {hasV2 : Bool} :
    Steady Indistinct (attemptV1 c fuel hc la hasV2) := by
  refine Steady.bind blind_aacs1Ake fun r => ?_
  rcases r with f | ⟨auth, guard⟩
  · exact .pure _
  · exact blind_finishAuth.map

theorem steady_attemptOneCert {hc : HostCert} {tryV1 hasV2 : Bool} :
    Steady Indistinct (attemptOneCert c fuel hc la tryV1 hasV2) := by
  unfold attemptOneCert
  split_ifs
  · refine .bind steady_attemptV1 fun o => ?_
    rcases o with o | dead
    · exact .pure _
    · exact steady_attemptP256
  · exact steady_attemptP256

theorem steady_backoff {attempts : ℕ} : Steady Indistinct (backoff attempts) := by
  unfold backoff
  split_ifs
  · exact steady_pause _
  · exact .pure _

theorem steady_certLoop {allowP256 : Bool} (certs : List HostCert) : ∀ attempts dead,
    Steady Indistinct (certLoop c fuel la allowP256 certs attempts dead) := by
  induction certs with
  | nil => exact fun _ _ => .pure _
  | cons hc certs ih =>
    intro attempts dead
    unfold certLoop
    dsimp only
    split_ifs
    · exact .pure _
    · exact ih _ _
    · exact ih _ _
    · refine .bind steady_backoff fun r => ?_
      rcases r with e | _
      · exact .pure _
      · refine .bind steady_attemptOneCert fun o => ?_
        cases o with
        | reject => exact ih _ _
        | _ => exact .pure _

end Sessions

namespace AacsUnlocker

variable {U : AacsUnlocker} {c : Crypto} {fuel : ℕ} {ctx : UnlockCtx}

theorem blind_unlock : Blind (U.unlock c fuel ctx) := by
  unfold unlock
  split
  · exact .ret _
  refine .seq ?_ fun armed => ?_
  · unfold maybeArm
    cases U.arm with
    | none => exact .ret _
    | some recipe => exact (Firmware.blind_arm recipe).map
  · split_ifs
    · exact .seq blind_readAacsVid fun _ => .ret _
    · exact .ret _
    · exact Steady.bind (steady_certLoop _ _ _) fun _ => .pure _

end AacsUnlocker

end FreemkvUnlock.Aacs
