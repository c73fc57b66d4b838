import FreemkvUnlock.Aacs.DeadBus
import FreemkvUnlock.Aacs.Unlocker
import FreemkvUnlock.Css.DeadBus
import FreemkvUnlock.Freemkv.Unlock
import FreemkvUnlock.Ld.Causes
import FreemkvUnlock.Ld.Confirmation

/-! # Only a dead bus is an error

The chain of unlockers goes on after everything but a dead bus. Three of the four unlockers pass
all their errors through `fallthrough` or make none but a dead bus; the DVD unlocker's profile
probe bypasses it and lets a rejection out as an error.
-/

namespace FreemkvUnlock

open Interaction Fallible

inductive AnyUnlocker
  | aacs (U : Aacs.AacsUnlocker) (c : Aacs.Crypto)
  | dvd
  | ld (catalog : Option Ld.Profiles)
  | freemkv (U : Freemkv.FreemkvUnlocker)

namespace AnyUnlocker

def unlock (fuel : ℕ) (ctx : UnlockCtx) : AnyUnlocker → Fallible Scsi UnlockError (Option Unlocked)
  | aacs U c => U.unlock c fuel ctx
  | dvd => Css.unlock
  | ld catalog => Ld.unlock catalog fuel ctx
  | freemkv U => U.unlock ctx.driveId

end AnyUnlocker

/-- No error but a transport failure, and that one only with a reason; a live loader of the
freemkv unlocker may have reasons of its own. -/
def OnlyDeadBus (U : AnyUnlocker) (τ : List (Event Scsi))
    (r : Except UnlockError (Option Unlocked)) : Prop :=
  ((∃ u, r = .ok u) ∨ r = .error .transport) ∧
    (r = .error .transport → (∃ V, U = .freemkv V) ∨ ∃ e ∈ τ, GivesUp e)

/-- The profile probe of the DVD unlocker, answered by an error that is no dead bus. -/
def ProbeRejected (e : Event Scsi) : Prop :=
  match e with
  | ⟨.execute cdb _ data _, o⟩ => cdb = Css.getConfigurationCdb ∧
    ∃ err, (o : Outcome data.length).result = .error err ∧ isDeadBus err = false
  | _ => False

theorem fallthrough_cases (r : Except UnlockError Unlocked) :
    (∃ u, fallthrough r = .ok u) ∨ fallthrough r = .error .transport := by
  rcases r with e | u
  · cases e <;> first | exact .inr rfl | exact .inl ⟨_, rfl⟩
  · exact .inl ⟨_, rfl⟩

theorem transport_of_fallthrough {r : Except UnlockError Unlocked}
    (h : Fails (· = .transport) (fallthrough r)) : Fails (· = .transport) r := by
  rcases r with e | u
  · cases e <;> first | exact rfl | exact h.elim
  · exact h.elim

/-! ## Firmware control -/

namespace Firmware

abbrev Caused {α : Type} (x : Control α) : Prop := Blames DeadBus (Fails (· = .transport)) x.run

variable {cdb : List UInt8} {feature : Protocol.Feature} {state : UInt8}

theorem caused_execIn : Caused (execIn cdb) := by
  refine .askResult fun o h => ?_
  change FoundDead o.result
  unfold inReply at h
  rcases hr : o.result with e | r <;> rw [hr] at h <;> dsimp only at h <;> split_ifs at h with hd
  · exact ⟨e, rfl, hd⟩
  · cases h
  · exact h.elim
  · cases h

theorem caused_get : Caused (get feature) := by
  refine .seq caused_execIn fun reply => .result ?_
  unfold stateReply
  split_ifs <;> nofun

theorem caused_set : Caused (set feature state) := .seq caused_execIn fun _ => .ret _

theorem caused_reset : Caused reset := .seq caused_execIn fun _ => .ret _

theorem caused_verify : Caused (verify feature state) :=
  .seq caused_get fun _ => .ensure nofun

theorem caused_setVerify : Caused (setVerify feature state) :=
  .seq caused_set fun _ => caused_verify

theorem caused_requireSupported : Caused requireSupported := by
  refine .seq (Blames.map caused_execIn fun r h => ?_) fun _ => .ensure nofun
  rcases r with e | ⟨buf, n⟩
  · cases e <;> first | exact rfl | exact h.elim | cases h
  · exact h.elim

theorem caused_arm (recipe : ArmRecipe) : Caused (arm recipe) := by
  cases recipe with
  | oemBd => exact .seq caused_requireSupported fun _ => caused_setVerify
  | oemUhd | bypassUhd =>
    exact .seq caused_requireSupported fun _ => .seq caused_setVerify fun _ =>
      .seq caused_setVerify fun _ => caused_setVerify
  | bypassBd =>
    exact .seq caused_requireSupported fun _ => .seq caused_setVerify fun _ => caused_setVerify
  | stealthOem =>
    exact .seq caused_requireSupported fun _ => .seq caused_reset fun _ =>
      .forM (fun _ => caused_verify) _

end Firmware

/-! ## The host-certificate unlocker -/

namespace Aacs.AacsUnlocker

variable {U : AacsUnlocker} {c : Crypto} {fuel : ℕ} {ctx : UnlockCtx}

theorem fails_maybeArm : FailsWith (· = .transport) U.maybeArm := by
  intro τ e h
  unfold maybeArm at h
  rcases harm : U.arm with _ | recipe <;> rw [harm] at h
  · cases (run_fallible_pure_iff.mp h).2
  · obtain ⟨r, -, hr⟩ := run_map_iff.mp h
    rcases r with e' | _
    · cases e' <;> cases hr
      rfl
    · cases hr

theorem fails_vidReply (o : Outcome vidStructLen) :
    ∀ e, vidReply o = .error e → e = .transport := by
  intro e h
  unfold vidReply at h
  rcases hr : o.result with err | r <;> rw [hr] at h <;> dsimp only at h <;> split_ifs at h
  · exact (Except.error.inj h).symm

theorem fails_unlock : FailsWith (· = .transport) (U.unlock c fuel ctx) := by
  unfold unlock
  split
  · exact .ret _
  refine .seq fails_maybeArm fun armed => ?_
  split_ifs
  · exact .seq (.seq (.lift _) fun o => .result (fails_vidReply o)) fun _ => .ret _
  · exact .ret _
  · intro τ e h
    obtain ⟨τ₁, r, τ₂, rfl, -, h₂⟩ := run_bind_iff.mp h
    obtain ⟨-, hr⟩ := run_pure_iff.mp h₂
    rcases fallthrough_cases (r.map captured) with ⟨u, hu⟩ | ht
    · cases hr.trans hu
    · exact Except.error.inj (hr.trans ht)

theorem blames_maybeArm : Blames GivesUp (Fails (· = .transport)) U.maybeArm.run := by
  unfold maybeArm
  cases U.arm with
  | none => exact .ret _
  | some recipe =>
    refine Blames.map ((Firmware.caused_arm recipe).mono fun _ => .inl) fun r h => ?_
    rcases r with e | _
    · cases e <;> first | exact rfl | exact h.elim
    · exact h.elim

theorem blames_readAacsVid : Blames GivesUp (Fails (· = .transport)) readAacsVid.run := by
  refine .askResult fun o h => .inl ?_
  change FoundDead o.result
  unfold vidReply at h
  rcases hr : o.result with e | r <;> rw [hr] at h <;> dsimp only at h <;> split_ifs at h with hd
  · exact ⟨e, rfl, hd⟩
  all_goals exact h.elim

theorem blames_unlock : Blames GivesUp (Fails (· = .transport)) (U.unlock c fuel ctx).run := by
  unfold unlock
  split
  · exact .ret _
  refine .seq blames_maybeArm fun armed => ?_
  split_ifs
  · exact .seq blames_readAacsVid fun _ => .ret _
  · exact .ret _
  · have hloop : Blames Decisive (Fails (· = .transport)) (runCertHandshake c fuel U.hostCerts) :=
      haltsOn_certLoop.blames
    refine Blames.bind (hloop.mono fun e h => ?_) fun r hr => .pure fun h => hr ?_
    · exact h.elim (fun h => .inl h.1) fun h => .inr (.inl h)
    · have ht := transport_of_fallthrough h
      rcases r with e | ch
      · exact ht
      · exact ht.elim

end Aacs.AacsUnlocker

/-! ## The DVD unlocker -/

theorem Css.profileReply_error {o : Outcome 8} {err : UnlockError}
    (h : profileReply o = .error err) :
    err = .transport ∧ FoundDead o.result ∨
      err = .notApplicable ∧ ∃ e, o.result = .error e ∧ isDeadBus e = false := by
  have hiff := profileReply_transport_iff o
  rw [h] at hiff
  by_cases hdead : FoundDead o.result
  · exact .inl ⟨hiff.mpr hdead, hdead⟩
  · refine .inr ?_
    unfold profileReply at h
    rcases hr : o.result with e | r <;> rw [hr] at h <;> dsimp only at h
    · obtain rfl := Except.error.inj h
      refine ⟨?_, e, rfl, eq_false_of_ne_true fun hd => hdead ⟨e, hr, hd⟩⟩
      exact if_neg fun ht => hdead (hiff.mp (toUnlockError_transport_iff.mpr ht))
    · split_ifs at h

/-- The probe is the first command, and its rejection is the only error that is no dead bus. -/
theorem Css.run_unlock_cases {τ : List (Event Scsi)} {r : Except UnlockError (Option Unlocked)}
    (h : Run Css.unlock.run τ r) :
    ∃ e τ', τ = e :: τ' ∧
      (ProbeRejected e ∧ r = .error .notApplicable ∨
        ¬ ProbeRejected e ∧ ((∃ u, r = .ok u) ∨ r = .error .transport)) := by
  obtain ⟨o, τ', rfl, hcases⟩ := Css.run_unlock h
  refine ⟨_, τ', rfl, ?_⟩
  have hrejected {b : Bool} (ho : profileReply o = .ok b) :
      ¬ ProbeRejected ⟨.execute getConfigurationCdb .fromDevice (List.replicate 8 0) 5000, o⟩ := by
    rintro ⟨-, e, he, -⟩
    unfold profileReply at ho
    rw [show o.result = .error e from he] at ho
    cases ho
  rcases hcases with ⟨err, ho, -, rfl⟩ | ⟨ho, -, rfl⟩ | ⟨ho, s, -, rfl⟩
  · rcases profileReply_error ho with ⟨rfl, e, he, hdead⟩ | ⟨rfl, hrej⟩
    · refine .inr ⟨?_, .inr rfl⟩
      rintro ⟨-, e', he', hd⟩
      obtain rfl := Except.error.inj (he.symm.trans he')
      cases hdead.symm.trans hd
    · exact .inl ⟨⟨rfl, hrej⟩, rfl⟩
  · exact .inr ⟨hrejected ho, .inl ⟨_, rfl⟩⟩
  · exact .inr ⟨hrejected ho, fallthrough_cases _⟩

/-! ## The chain -/

/-- An unlocker's only error is a dead bus it met, unless it is the DVD unlocker and its profile
probe, the first command of the run, is rejected by an error. -/
theorem unlock_onlyDeadBus_iff (U : AnyUnlocker) (fuel : ℕ) (ctx : UnlockCtx)
    (τ : List (Event Scsi)) (r : Except UnlockError (Option Unlocked))
    (h : Run (U.unlock fuel ctx).run τ r) :
    OnlyDeadBus U τ r ↔ (U = .dvd → ∀ e ∈ τ.head?, ¬ ProbeRejected e) := by
  cases U with
  | aacs U c =>
    refine iff_of_true ⟨?_, ?_⟩ nofun
    · rcases r with e | u
      · exact .inr (congrArg _ (Aacs.AacsUnlocker.fails_unlock h))
      · exact .inl ⟨u, rfl⟩
    · rintro rfl
      exact .inr (Aacs.AacsUnlocker.blames_unlock h rfl)
  | dvd =>
    obtain ⟨e, τ', rfl, ⟨hrej, rfl⟩ | ⟨hrej, hr⟩⟩ := Css.run_unlock_cases h
    · refine iff_of_false (fun hd => ?_) fun hd => hd rfl e rfl hrej
      rcases hd.1 with ⟨u, hu⟩ | ht
      · cases hu
      · cases ht
    · refine iff_of_true ⟨hr, ?_⟩ fun _ e' he' => ?_
      · rintro rfl
        obtain ⟨e', he', hdead⟩ := Css.haltsOn_unlock.blames h rfl
        exact .inr ⟨e', he', .inl hdead.1.1⟩
      · obtain rfl := Option.some.inj he'
        exact hrej
  | ld catalog =>
    refine iff_of_true ⟨?_, ?_⟩ nofun
    · obtain ⟨r', -, rfl⟩ := run_map_iff.mp h
      exact fallthrough_cases r'
    · rintro rfl
      obtain ⟨e, he, hfault⟩ := Ld.unlock_transport h rfl
      exact .inr ⟨e, he, givesUp_of_faulty hfault⟩
  | freemkv U =>
    refine iff_of_true ⟨?_, fun _ => .inl ⟨U, rfl⟩⟩ nofun
    obtain ⟨r', -, rfl⟩ := run_map_iff.mp h
    exact fallthrough_cases r'

/-- A drive that answers every command with an error that carries a sense. -/
def rejectingDrive : Handler Scsi Unit
  | .execute _ _ data _, s =>
    (⟨.error ⟨0x02, some (Vector.replicate 32 0)⟩, Vector.replicate data.length 0⟩, s)
  | o, s => Aacs.refusingDrive o s

theorem unlock_onlyDeadBus_rejecting : ∃ τ r,
    Run (AnyUnlocker.unlock 1 Ld.sampleCtx (.ld (some ⟨[Ld.sampleProfile], [], []⟩))).run τ r ∧
      OnlyDeadBus (.ld (some ⟨[Ld.sampleProfile], [], []⟩)) τ r := by
  have hex : (exec rejectingDrive
      (AnyUnlocker.unlock 1 Ld.sampleCtx (.ld (some ⟨[Ld.sampleProfile], [], []⟩))).run
      ()).isSome = true := by decide +kernel
  obtain ⟨⟨r, τ, s⟩, he⟩ := Option.isSome_iff_exists.mp hex
  have hrun := run_of_exec he
  exact ⟨τ, r, hrun, (unlock_onlyDeadBus_iff _ 1 _ τ r hrun).mpr nofun⟩

/-- The DVD unlocker ends with an error although no bus is dead. -/
theorem unlock_not_onlyDeadBus_rejecting : ∃ τ,
    Run (AnyUnlocker.dvd.unlock 0 Ld.sampleCtx).run τ (.error .notApplicable) ∧
      ¬ OnlyDeadBus .dvd τ (.error .notApplicable) := by
  have hex : exec rejectingDrive (AnyUnlocker.dvd.unlock 0 Ld.sampleCtx).run () =
      some (.error .notApplicable, [_], ()) := rfl
  refine ⟨_, run_of_exec hex, fun h => ?_⟩
  rcases h.1 with ⟨u, hu⟩ | ht
  · cases hu
  · cases ht

end FreemkvUnlock
