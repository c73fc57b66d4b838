import FreemkvUnlock.Freemkv.Backend
import FreemkvUnlock.Interaction.Trace

/-! # Traces of the unlock sequence

Every command of the sequence is one `execute`, so a property of all events reduces to one of
commands and of the backend's own steps. A critical span is opened once and closed once.
-/

namespace FreemkvUnlock.Freemkv

open Interaction Fallible Protocol

def HoldsOfCommands (Q : Event Scsi → Prop) : Prop :=
  ∀ cdb dir data t r, Q ⟨.execute cdb dir data t, r⟩

variable {σ : Type} {B : Backend σ} {Q : Event Scsi → Prop} {τ : List (Event Scsi)}

theorem issues_probe (hQ : HoldsOfCommands Q) : Issues Q probe.run :=
  .seq (.lift (.ask fun _ => hQ _ _ _ _ _)) fun _ => .result _

theorem issues_readAacsVid (hQ : HoldsOfCommands Q) : Issues Q readAacsVid.run :=
  .seq (.lift (.ask fun _ => hQ _ _ _ _ _)) fun _ => .result _

theorem issues_setChecked (hQ : HoldsOfCommands Q) (feature : Feature) (state : UInt8) :
    Issues Q (setChecked B feature state).run :=
  .seq (.lift (.ask fun _ => hQ _ _ _ _ _)) fun _ => .result _

theorem issues_setBestEffort (hQ : HoldsOfCommands Q) (setting : Feature × UInt8) :
    Issues Q (setBestEffort B setting).run := by
  unfold setBestEffort
  split_ifs
  · refine .bind (issues_setChecked hQ _ _) fun r => ?_
    split <;> exact .pure _
  · exact .ret ()

theorem issues_activate (hQ : HoldsOfCommands Q) : Issues Q (activate B).run := by
  refine .seq (.forM fun c _ => issues_setBestEffort hQ c) fun _ => ?_
  refine .seq (.ensure _ _) fun _ => ?_
  exact .mapErr _ (issues_setChecked hQ _ _)

theorem issues_activateBackend (hQ : HoldsOfCommands Q) {s : σ} (hv : Issues Q (B.verify s).run)
    (hg : Issues Q B.getVid.run) : Issues Q (activateBackend B s).run :=
  .seq (issues_activate hQ) fun _ => .seq hv fun _ => .seq hg fun _ => .ret _

theorem issues_confirmInstalled (hQ : HoldsOfCommands Q) (installed : Bool) :
    Issues Q (confirmInstalled B installed).run := by
  unfold confirmInstalled
  split_ifs
  · exact .ret ()
  · exact .seq (issues_probe hQ) fun _ => .seq (.result _) fun _ => .ensure _ _

/-- A refused span runs nothing; an opened one is closed after its body. -/
theorem run_criticalSpan {α : Type} {body : Prog Scsi α} {r : Except UnlockError α}
    (h : Run (criticalSpan body).run τ r) :
    (∃ e, τ = [⟨.beginCritical, .error e⟩] ∧ r = .error .transport) ∨
      ∃ τ' a, τ = ⟨.beginCritical, .ok ()⟩ :: (τ' ++ [⟨.endCritical, ()⟩]) ∧ Run body τ' a ∧
        r = .ok a := by
  rcases run_fallible_bind_iff.mp h with ⟨e, rfl, h₁⟩ | ⟨τ₁, opened, τ₂, rfl, h₁, h₂⟩
  · obtain ⟨_, -, he⟩ := run_lift_iff.mp h₁
    cases he
  obtain rfl := run_ask_iff.mp (run_lift_ok_iff.mp h₁)
  rcases run_fallible_bind_iff.mp h₂ with ⟨e, rfl, h₃⟩ | ⟨τ₃, u, τ₄, rfl, h₃, h₄⟩
  · obtain ⟨rfl, he⟩ := run_result_iff.mp h₃
    rcases opened with err | u
    · exact .inl ⟨err, rfl, congrArg _ (Except.error.inj he)⟩
    · cases he
  obtain ⟨rfl, hu⟩ := run_result_iff.mp h₃
  rcases opened with err | ⟨⟩
  · cases hu
  rcases run_fallible_bind_iff.mp h₄ with ⟨e, rfl, h₅⟩ | ⟨τ₅, a, τ₆, rfl, h₅, h₆⟩
  · obtain ⟨_, -, he⟩ := run_lift_iff.mp h₅
    cases he
  rcases run_fallible_bind_iff.mp h₆ with ⟨e, rfl, h₇⟩ | ⟨τ₇, v, τ₈, rfl, h₇, h₈⟩
  · obtain ⟨_, -, he⟩ := run_lift_iff.mp h₇
    cases he
  obtain rfl := run_ask_iff.mp (run_lift_ok_iff.mp h₇)
  obtain ⟨rfl, rfl⟩ := run_fallible_pure_iff.mp h₈
  exact .inr ⟨τ₅, a, by cases v; rfl, run_lift_ok_iff.mp h₅, rfl⟩

end FreemkvUnlock.Freemkv
