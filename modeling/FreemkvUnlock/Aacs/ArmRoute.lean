import FreemkvUnlock.Aacs.Attempts
import FreemkvUnlock.Aacs.Soundness
import FreemkvUnlock.Aacs.Unlocker
import FreemkvUnlock.Arming

/-! # The two routes of the certificate unlocker

An armed drive that serves its content in the clear needs no certificate. Every other outcome of
the arming, a dead bus apart, leaves the handshake to go on as if no recipe had been asked for.
-/

namespace FreemkvUnlock.Aacs

open Interaction Fallible Firmware

variable {c : Crypto} {fuel : ℕ}

/-! ## Commands of the handshake -/

/-- What the handshake consists of. -/
def KeyOrPause (e : Event Scsi) : Prop := KeyCall e ∨ ∃ ms, e.1 = .pause ms

theorem issues_certLoop {la : Anchors} {allowP256 : Bool} {certs : List HostCert} {attempts : ℕ}
    {dead : Bool} : Issues KeyOrPause (certLoop c fuel la allowP256 certs attempts dead) := by
  intro τ r h
  obtain ⟨as, has⟩ := run_certLoop_tried h
  have hspaced : ∀ {as : List Attempt} {attempts : ℕ}, (∀ a ∈ as, ∀ e ∈ a.events, KeyCall e) →
      ∀ e ∈ spaced attempts as, KeyOrPause e := by
    intro as
    induction as with
    | nil => exact fun _ => List.forall_mem_nil _
    | cons a as ih =>
      intro attempts h
      rw [List.forall_mem_cons] at h
      refine List.forall_mem_append.mpr ⟨List.forall_mem_append.mpr ⟨?_, ?_⟩, ih h.2⟩
      · unfold pauseBefore
        split_ifs
        · intro e he
          obtain rfl := List.mem_singleton.mp he
          exact .inr ⟨_, rfl⟩
        · exact List.forall_mem_nil _
      · exact fun e he => .inl (h.1 e he)
  have hall := @hspaced as attempts fun a ha => (has.sound a ha).calls
  cases has.ends with
  | exhausted _ hτ _ => exact hτ ▸ hall
  | stopped _ _ e hτ _ =>
    rw [hτ]
    refine List.forall_mem_append.mpr ⟨hall, fun e he => ?_⟩
    obtain rfl := List.mem_singleton.mp he
    exact .inr ⟨_, rfl⟩
  | concluded _ _ _ _ hτ _ => exact hτ ▸ hall

def SendsHostCert (e : Event Scsi) : Prop := ∃ agid len data,
  e.1 = .execute (cdbSendKey agid 0x01 len).toList .toDevice data 5000

theorem sendsHostCert_of_run {certs : List HostCert} {τ : List (Event Scsi)} {ch : CertHandshake}
    (h : Run (runCertHandshake c fuel certs) τ (.ok ch)) : ∃ e ∈ τ, SendsHostCert e := by
  have hsend : ∀ {agid len data e}, GoodWrite (cdbSendKey agid 0x01 len).toList data e →
      SendsHostCert e := by
    rintro agid len data _ ⟨o, r, rfl, -⟩
    exact ⟨agid, len, data, rfl⟩
  have hmem : ∀ {e : Event Scsi} {es post : List (Event Scsi)}, (e :: es).Sublist post →
      e ∈ post := fun h => h.subset List.mem_cons_self
  obtain ⟨hc, -, agid, post, ⟨pre, alloc, rfl, -, -⟩, hsound⟩ := run_certLoop_ok h
  rcases hsound with ⟨⟨a⟩⟩ | ⟨-, -, cert, -, ⟨a⟩⟩
  · exact ⟨a.sendCert, by simp [hmem a.order], hsend a.sendCert_good⟩
  · exact ⟨a.sendCert, by simp [hmem a.order], hsend a.sendCert_good⟩

def KeyExchange (e : Event Scsi) : Prop :=
  match e.1 with
  | .execute cdb _ _ _ => cdb.headD 0 ∈ [scsiReportKey, scsiSendKey]
  | .executeCleanup cdb _ _ _ => cdb.headD 0 ∈ [scsiReportKey, scsiSendKey]
  | _ => False

theorem SendsHostCert.keyExchange {e : Event Scsi} (h : SendsHostCert e) : KeyExchange e := by
  obtain ⟨agid, len, data, he⟩ := h
  unfold KeyExchange
  rw [he]
  exact List.mem_cons_of_mem _ List.mem_cons_self

theorem not_keyExchange_of_walk {ss : List Step} {τ : List (Event Scsi)} {e : Ending}
    (h : Walk ss τ e) : ∀ e ∈ τ, ¬ KeyExchange e := by
  have hstep : ∀ (s : Step) o, ¬ KeyExchange (s.event o) := by
    intro s o hk
    have hop : s.cdb.headD 0 = Protocol.readBufferOpcode := by cases s <;> rfl
    change s.cdb.headD 0 ∈ _ at hk
    rw [hop] at hk
    revert hk
    decide
  induction h with
  | armed => exact List.forall_mem_nil _
  | acked _ _ ih => exact List.forall_mem_cons.mpr ⟨hstep _ _, ih⟩
  | refused _ _ => simpa using hstep _ _
  | dead _ => simpa using hstep _ _

/-! ## The routes -/

namespace AacsUnlocker

variable {U : AacsUnlocker} {ctx : UnlockCtx} {τ : List (Event Scsi)}
  {r : Except UnlockError (Option Unlocked)}

/-- What follows the arming: a bare Volume ID read or the handshake. -/
def afterArm (U : AacsUnlocker) (c : Crypto) (fuel : ℕ) (armed : Bool) :
    Fallible Scsi UnlockError (Option Unlocked) :=
  if armed then do
    let vid ← readAacsVid
    return some ⟨vid, none⟩
  else if U.hostCerts.isEmpty then return none
  else ExceptT.mk do
    let r ← runCertHandshake c fuel U.hostCerts
    return fallthrough (r.map captured)

theorem unlock_eq (hkind : ctx.kind = .aacs) :
    U.unlock c fuel ctx = U.maybeArm >>= U.afterArm c fuel := by
  unfold unlock
  rw [if_neg (not_not.mpr hkind)]
  rfl

theorem unlock_unarmed (hkind : ctx.kind = .aacs) (harm : U.arm = none) :
    U.unlock c fuel ctx = U.afterArm c fuel false := by
  rw [unlock_eq hkind]
  unfold maybeArm
  rw [harm]
  rfl

theorem run_unlock_append_iff {recipe : ArmRecipe} {τ₁ τ₂ : List (Event Scsi)}
    {x : Except FirmwareError Unit} (hkind : ctx.kind = .aacs) (harm : U.arm = some recipe)
    (h : Run (Firmware.arm recipe).run τ₁ x) : Run (U.unlock c fuel ctx).run (τ₁ ++ τ₂) r ↔
      match armOutcome recipe x with
      | .ok armed => Run (U.afterArm c fuel armed).run τ₂ r
      | .error e => τ₂ = [] ∧ r = .error e := by
  have hrun : Run U.maybeArm.run τ₁ (armOutcome recipe x) := by
    unfold maybeArm
    rw [harm]
    exact run_map_iff.mpr ⟨x, h, rfl⟩
  rw [unlock_eq hkind, ExceptT.run_bind, run_append_iff hrun]
  cases armOutcome recipe x with
  | ok armed => exact Iff.rfl
  | error e => exact run_pure_iff

/-- An unlock without a certificate: every setting of a recipe that turns encryption off was made
and read back, and the Volume ID was read in the clear. -/
def Bypassed (U : AacsUnlocker) (τ : List (Event Scsi)) (u : Unlocked) : Prop :=
  ∃ recipe acks vid, U.arm = some recipe ∧ recipe.disablesEncryption = true ∧
    recipe.steps = .identity :: recipe.settings.flatMap settled ∧
    recipe.settings.getLast? = some (.encryption, Protocol.stateOff) ∧
    Walk recipe.steps acks .armed ∧ τ = acks ++ [vid] ∧
    vid.1 = .execute buildVidCdb .fromDevice (List.replicate vidStructLen 0) 5000 ∧
    u.busKey = none ∧ ∀ e ∈ τ, ¬ KeyExchange e

theorem run_afterArm_false (h : Run (U.afterArm c fuel false).run τ r) :
    (∀ e ∈ τ, KeyOrPause e) ∧ ∀ u, r = .ok (some u) → ∃ e ∈ τ, SendsHostCert e := by
  unfold afterArm at h
  rw [if_neg Bool.false_ne_true] at h
  split_ifs at h
  · obtain ⟨rfl, rfl⟩ := run_fallible_pure_iff.mp h
    exact ⟨List.forall_mem_nil _, nofun⟩
  · obtain ⟨τ₁, x, τ₂, rfl, h₁, h₂⟩ := run_bind_iff.mp h
    obtain ⟨rfl, rfl⟩ := run_pure_iff.mp h₂
    rw [List.append_nil]
    refine ⟨issues_certLoop h₁, fun u hu => ?_⟩
    rcases x with e | ch
    · cases e <;> cases hu
    · exact sendsHostCert_of_run h₁

theorem run_afterArm_true (h : Run (U.afterArm c fuel true).run τ r) : ∃ vid,
    τ = [vid] ∧ vid.1 = .execute buildVidCdb .fromDevice (List.replicate vidStructLen 0) 5000 ∧
      ∀ u, r = .ok (some u) → u.busKey = none := by
  unfold afterArm at h
  rw [if_pos rfl] at h
  rcases run_fallible_bind_iff.mp h with ⟨e, rfl, h₁⟩ | ⟨τ₁, vid, τ₂, rfl, h₁, h₂⟩
  · obtain ⟨o, rfl, -⟩ := run_ask_result_iff.mp h₁
    exact ⟨_, rfl, rfl, nofun⟩
  · obtain ⟨o, rfl, -⟩ := run_ask_result_iff.mp h₁
    obtain ⟨rfl, rfl⟩ := run_fallible_pure_iff.mp h₂
    refine ⟨_, rfl, rfl, ?_⟩
    rintro u ⟨⟩
    rfl

structure ArmRoute (U : AacsUnlocker) (c : Crypto) (fuel : ℕ) (ctx : UnlockCtx) : Prop where
  silent : ctx.kind ≠ .aacs → ∀ τ r, Run (U.unlock c fuel ctx).run τ r → τ = [] ∧ r = .ok none
  /-- Without a recipe the drive gets key and disc-structure commands only. -/
  unarmed : U.arm = none → ∀ τ r, Run (U.unlock c fuel ctx).run τ r → ∀ e ∈ τ, KeyOrPause e
  bypass : ∀ τ u, Run (U.unlock c fuel ctx).run τ (.ok (some u)) →
    (∀ e ∈ τ, ¬ SendsHostCert e) → U.Bypassed τ u
  /-- With a recipe a run starts with a walk along its steps. -/
  starts : ctx.kind = .aacs → ∀ recipe, U.arm = some recipe → ∀ τ r,
    Run (U.unlock c fuel ctx).run τ r → ∃ τ₁ τ₂ e, τ = τ₁ ++ τ₂ ∧ Walk recipe.steps τ₁ e
  /-- After a refusal the runs are those of the unlocker without the recipe. -/
  refused : ctx.kind = .aacs → ∀ recipe, U.arm = some recipe → ∀ τ₁,
    Walk recipe.steps τ₁ .refused → ∀ τ₂ r, Run (U.unlock c fuel ctx).run (τ₁ ++ τ₂) r ↔
      Run (AacsUnlocker.unlock { U with arm := none } c fuel ctx).run τ₂ r
  dead : ctx.kind = .aacs → ∀ recipe, U.arm = some recipe → ∀ τ₁,
    Walk recipe.steps τ₁ .dead → ∀ τ₂ r, Run (U.unlock c fuel ctx).run (τ₁ ++ τ₂) r ↔
      τ₂ = [] ∧ r = .error .transport

theorem armOutcome_of_refused {recipe : ArmRecipe} {x : Except FirmwareError Unit}
    (h : Ending.of x = .refused) : armOutcome recipe x = .ok false := by
  rcases x with e | ⟨⟩
  · cases e <;> first | rfl | cases h
  · cases h

theorem armOutcome_of_dead {recipe : ArmRecipe} {x : Except FirmwareError Unit}
    (h : Ending.of x = .dead) : armOutcome recipe x = .error .transport := by
  rcases x with e | ⟨⟩
  · cases e <;> first | rfl | cases h
  · cases h

/-- Only an armed recipe that turns encryption off spares the handshake. -/
theorem of_armOutcome_true {recipe : ArmRecipe} {x : Except FirmwareError Unit}
    (h : armOutcome recipe x = .ok true) :
    Ending.of x = .armed ∧ recipe.disablesEncryption = true := by
  rcases x with e | ⟨⟩
  · cases e <;> cases h
  · exact ⟨rfl, Except.ok.inj h⟩

theorem run_unlock_armed {recipe : ArmRecipe} (hkind : ctx.kind = .aacs)
    (harm : U.arm = some recipe) (h : Run (U.unlock c fuel ctx).run τ r) :
    ∃ τ₁ x τ₂, τ = τ₁ ++ τ₂ ∧ Run (Firmware.arm recipe).run τ₁ x := by
  rw [unlock_eq hkind, ExceptT.run_bind] at h
  obtain ⟨τ₁, y, τ₂, rfl, h₁, -⟩ := run_bind_iff.mp h
  unfold maybeArm at h₁
  rw [harm] at h₁
  obtain ⟨x, harmed, -⟩ := run_map_iff.mp h₁
  exact ⟨τ₁, x, τ₂, rfl, harmed⟩

theorem bypassed_of_run {u : Unlocked} (h : Run (U.unlock c fuel ctx).run τ (.ok (some u)))
    (hcert : ∀ e ∈ τ, ¬ SendsHostCert e) : U.Bypassed τ u := by
  have hno : ∀ {ρ σ : List (Event Scsi)}, τ = ρ ++ σ →
      ¬ Run (U.afterArm c fuel false).run σ (.ok (some u)) := by
    rintro ρ σ rfl hrun
    obtain ⟨e, he, hsent⟩ := (run_afterArm_false hrun).2 u rfl
    exact hcert e (List.mem_append_right ρ he) hsent
  by_cases hkind : ctx.kind = .aacs
  · rcases harm : U.arm with _ | recipe
    · rw [unlock_unarmed hkind harm] at h
      exact absurd h (hno (List.nil_append τ).symm)
    · obtain ⟨τ₁, x, τ₂, rfl, harmed⟩ := run_unlock_armed hkind harm h
      rw [run_unlock_append_iff hkind harm harmed] at h
      rcases hout : armOutcome recipe x with e | armed <;> rw [hout] at h
      · cases h.2
      cases armed with
      | false => exact absurd h (hno rfl)
      | true =>
        obtain ⟨hend, hoff⟩ := of_armOutcome_true hout
        have hwalk := run_arm_walk harmed
        rw [hend] at hwalk
        obtain ⟨vid, rfl, hvid, hkey⟩ := run_afterArm_true h
        obtain ⟨htail, hlast⟩ := ArmRecipe.settings_of_disablesEncryption hoff
        refine ⟨recipe, τ₁, vid, harm, hoff, by rw [ArmRecipe.steps, htail], hlast, hwalk, rfl,
          hvid, hkey u rfl, List.forall_mem_append.mpr ⟨not_keyExchange_of_walk hwalk, ?_⟩⟩
        intro e he hk
        obtain rfl := List.mem_singleton.mp he
        unfold KeyExchange at hk
        rw [hvid] at hk
        revert hk
        decide
  · unfold unlock at h
    rw [if_pos hkind] at h
    cases (run_fallible_pure_iff.mp h).2

/-- The unlocker keeps to its two routes. -/
theorem unlock_armRoute (U : AacsUnlocker) (c : Crypto) (fuel : ℕ) (ctx : UnlockCtx) :
    U.ArmRoute c fuel ctx where
  silent hkind τ r h := by
    unfold unlock at h
    rw [if_pos hkind] at h
    exact run_fallible_pure_iff.mp h
  unarmed harm τ r h := by
    by_cases hkind : ctx.kind = .aacs
    · rw [unlock_unarmed hkind harm] at h
      exact (run_afterArm_false h).1
    · unfold unlock at h
      rw [if_pos hkind] at h
      rw [(run_fallible_pure_iff.mp h).1]
      exact List.forall_mem_nil _
  bypass τ u h hcert := bypassed_of_run h hcert
  starts hkind recipe harm τ r h := by
    obtain ⟨τ₁, x, τ₂, rfl, harmed⟩ := run_unlock_armed hkind harm h
    exact ⟨τ₁, τ₂, _, rfl, run_arm_walk harmed⟩
  refused hkind recipe harm τ₁ hwalk τ₂ r := by
    obtain ⟨x, hrun, hend⟩ := exists_run_arm hwalk
    rw [run_unlock_append_iff hkind harm hrun, armOutcome_of_refused hend,
      unlock_unarmed hkind rfl]
    exact Iff.rfl
  dead hkind recipe harm τ₁ hwalk τ₂ r := by
    obtain ⟨x, hrun, hend⟩ := exists_run_arm hwalk
    rw [run_unlock_append_iff hkind harm hrun, armOutcome_of_dead hend]

/-! ## A recipe that is refused, and one that opens the drive -/

def obligingDrive : Handler Scsi Unit
  | .execute cdb dir data t, s =>
    if cdb = Protocol.buildIdentityCdb Protocol.memreadLen then
      bannerDrive (.execute cdb dir data t) s
    else (⟨.ok ⟨0, data.length, Vector.replicate 32 0⟩, Vector.replicate data.length 0⟩, s)
  | o, s => bannerDrive o s

def bypassing : AacsUnlocker := ⟨[], some .bypassBd⟩

def mountedBd : UnlockCtx := ⟨⟨"", "", "", "", ""⟩, .aacs⟩

def oneVid : Event Scsi :=
  ⟨.execute buildVidCdb .fromDevice (List.replicate vidStructLen 0) 5000,
    ⟨.ok ⟨0, vidStructLen, Vector.replicate 32 0⟩, Vector.replicate vidStructLen 1⟩⟩

theorem run_bypassing (c : Crypto) : ∃ acks, Run (Firmware.arm .bypassBd).run acks (.ok ()) ∧
    Run (bypassing.unlock c 1 mountedBd).run (acks ++ [oneVid])
      (.ok (some ⟨some (Vector.replicate 16 1), none⟩)) := by
  have hex : (exec obligingDrive (Firmware.arm .bypassBd).run ()).any (fun x => x.1.isOk) =
      true := by decide +kernel
  obtain ⟨x, acks, _, harm, hok⟩ := exists_run_of_any hex
  rcases x with e | ⟨⟩
  · cases hok
  refine ⟨acks, harm, (run_unlock_append_iff rfl rfl harm).mpr ?_⟩
  refine run_fallible_bind_iff.mpr (.inr ⟨[oneVid], some (Vector.replicate 16 1), [], rfl, ?_,
    run_fallible_pure_iff.mpr ⟨rfl, rfl⟩⟩)
  exact run_ask_result_iff.mpr ⟨_, rfl, by decide +kernel⟩

theorem unlock_armRoute_bypassing :
    (∃ τ, Walk ArmRecipe.bypassBd.steps τ .refused ∧
      Run (bypassing.unlock .unused 1 mountedBd).run τ (.ok none)) ∧
    ∃ τ u, Run (bypassing.unlock .unused 1 mountedBd).run τ (.ok (some u)) ∧
      bypassing.Bypassed τ u := by
  have hroute := unlock_armRoute bypassing .unused 1 mountedBd
  constructor
  · have hex : (exec bannerDrive (Firmware.arm .bypassBd).run ()).any
        (fun x => Ending.of x.1 == .refused) = true := by decide +kernel
    obtain ⟨x, τ, _, hrun, hend⟩ := exists_run_of_any hex
    have hwalk : Walk ArmRecipe.bypassBd.steps τ .refused :=
      beq_iff_eq.mp hend ▸ run_arm_walk hrun
    have hrest := (hroute.refused rfl .bypassBd rfl τ hwalk [] (.ok none)).mpr
      (run_fallible_pure_iff.mpr ⟨rfl, rfl⟩)
    exact ⟨τ, hwalk, by rwa [List.append_nil] at hrest⟩
  · obtain ⟨acks, harm, hrun⟩ := run_bypassing .unused
    have hvid : ¬ KeyExchange oneVid :=
      show ¬ buildVidCdb.headD 0 ∈ [scsiReportKey, scsiSendKey] by decide
    refine ⟨_, _, hrun, hroute.bypass _ _ hrun fun e he hs => ?_⟩
    rcases List.mem_append.mp he with he | he
    · exact not_keyExchange_of_walk (run_arm_walk harm) e he hs.keyExchange
    · obtain rfl := List.mem_singleton.mp he
      exact hvid hs.keyExchange
end AacsUnlocker

end FreemkvUnlock.Aacs
