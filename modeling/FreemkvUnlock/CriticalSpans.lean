import FreemkvUnlock.DeadBus
import FreemkvUnlock.Freemkv.Outcome
import FreemkvUnlock.Interaction.Guarded
import FreemkvUnlock.Ld.Calibration
import FreemkvUnlock.Renesas.Confinement

/-! # Critical spans

A firmware upload must not be abandoned midway. It runs inside a critical span, which is closed
on every exit, which no pause and no other span interrupts, and without which nothing of the
upload is sent.
-/

namespace FreemkvUnlock

open Interaction Fallible

/-! ## The discipline -/

/-- An event that neither opens nor closes a span nor pauses. -/
def SpanFree (e : Event Scsi) : Prop :=
  e.1 ≠ .beginCritical ∧ e.1 ≠ .endCritical ∧ ∀ ms, e.1 ≠ .pause ms

/-- Whether an event opens a span; a refused one opens none. -/
def opensSpan : Event Scsi → Option Unit
  | ⟨.beginCritical, r⟩ => (r : Except ScsiError Unit).toOption
  | _ => none

/-- Critical spans, with no pause inside. -/
def criticalSpans : Spans (Event Scsi) Unit where
  opens := opensSpan
  isClose e := e.1 = .endCritical
  closes _ e := e.1 = .endCritical
  inside _ := SpanFree
  opens_of_inside {_ e} h := by
    obtain ⟨o, r⟩ := e
    cases o with
    | beginCritical => exact absurd rfl h.1
    | _ => rfl
  not_close_of_inside h := h.2.1
  opens_of_closes {_ e} h := by
    obtain ⟨o, r⟩ := e
    cases (h : o = _)
    rfl

/-- Spans do not nest and are closed, nothing pauses inside them, and the commands of an upload
stand inside spans only: after a refused span there is none before another one is open. -/
structure CriticalDiscipline (upload : Event Scsi → Prop) (τ : List (Event Scsi)) : Prop where
  closed : ∀ pre post, τ = pre ++ ⟨.beginCritical, .ok ()⟩ :: post →
    ∃ body rest, post = body ++ ⟨.endCritical, ()⟩ :: rest ∧ ∀ e ∈ body, SpanFree e
  opened : ∀ pre post, τ = pre ++ ⟨.endCritical, ()⟩ :: post →
    ∃ pre' body, pre = pre' ++ ⟨.beginCritical, .ok ()⟩ :: body ∧ ∀ e ∈ body, SpanFree e
  uploads : ∀ pre e post, τ = pre ++ e :: post → upload e →
    ∃ pre' body, pre = pre' ++ ⟨.beginCritical, .ok ()⟩ :: body ∧ ∀ e ∈ body, SpanFree e
  refused : ∀ pre err mid e post, τ = pre ++ ⟨.beginCritical, .error err⟩ :: (mid ++ e :: post) →
    upload e → (⟨.beginCritical, .ok ()⟩ : Event Scsi) ∈ mid

theorem eq_of_opensSpan {e : Event Scsi} {u : Unit} (h : opensSpan e = some u) :
    e = ⟨.beginCritical, .ok ()⟩ := by
  obtain ⟨o, r⟩ := e
  cases o with
  | beginCritical =>
    rcases (r : Except ScsiError Unit) with err | ⟨⟩
    · cases h
    · rfl
  | _ => cases h

/-- The guarded traces of the critical spans. -/
abbrev Spanned (upload : Event Scsi → Prop) : List (Event Scsi) → Prop :=
  Guarded criticalSpans upload

variable {upload : Event Scsi → Prop} {τ : List (Event Scsi)}

theorem Spanned.criticalDiscipline (hup : ∀ e, upload e → SpanFree e) (h : Spanned upload τ) :
    CriticalDiscipline upload τ := by
  have hopened {pre post e} (hτ : τ = pre ++ e :: post) (he : upload e) :
      ∃ pre' body, pre = pre' ++ ⟨.beginCritical, .ok ()⟩ :: body ∧ ∀ e ∈ body, SpanFree e := by
    obtain ⟨pre', o, body, u, rfl, ho, hbody, -⟩ := h.opened
      (fun e he => ⟨criticalSpans.opens_of_inside (r := ()) (hup e he), (hup e he).2.1⟩) hτ he
      fun _ _ => id
    exact ⟨pre', body, by rw [eq_of_opensSpan ho], hbody⟩
  refine ⟨fun pre post hτ => ?_, fun pre post hτ => ?_, fun pre e post => hopened, ?_⟩
  · obtain ⟨body, ⟨o, r⟩, rest, rfl, hbody, hc, -⟩ := h.bracketed.closed hτ rfl
    cases (hc : o = _)
    exact ⟨body, rest, rfl, hbody⟩
  · obtain ⟨pre', o, body, u, rfl, ho, hbody, -⟩ := h.bracketed.opened hτ rfl rfl
    exact ⟨pre', body, by rw [eq_of_opensSpan ho], hbody⟩
  · rintro pre err mid e post rfl he
    obtain ⟨pre', body, heq, hbody⟩ := hopened
      (show _ = (pre ++ ⟨.beginCritical, .error err⟩ :: mid) ++ e :: post by simp) he
    -- The refused span is no event of the open one, so the open one begins after it.
    rcases split_cases heq with ⟨-, hne, -⟩ | ⟨between, -, rfl⟩ | ⟨between, -, rfl⟩
    · cases hne
    · exact absurd rfl (hbody _ (List.mem_append_right _ List.mem_cons_self)).1
    · exact List.mem_append_right _ List.mem_cons_self

/-- Events outside spans: everything but their opening, their end and uploads. -/
def OutsideSpans (upload : Event Scsi → Prop) (e : Event Scsi) : Prop :=
  e.1 ≠ .beginCritical ∧ e.1 ≠ .endCritical ∧ ¬ upload e

theorem OutsideSpans.outside {e : Event Scsi} (h : OutsideSpans upload e) :
    criticalSpans.Outside e ∧ ¬ upload e := by
  refine ⟨⟨?_, h.2.1⟩, h.2.2⟩
  obtain ⟨o, r⟩ := e
  cases o with
  | beginCritical => exact absurd rfl h.1
  | _ => rfl

theorem spanned_of_outside (h : ∀ e ∈ τ, OutsideSpans upload e) : Spanned upload τ :=
  .of_outside fun e he => (h e he).outside

theorem spanned_refused {err : ScsiError} (hup : ∀ e, upload e → SpanFree e) :
    Spanned upload [⟨.beginCritical, .error err⟩] :=
  .outside ⟨rfl, nofun⟩ (fun h => (hup _ h).1 rfl) .nil

theorem spanned_span {body : List (Event Scsi)} (hbody : ∀ e ∈ body, SpanFree e) :
    Spanned upload (⟨.beginCritical, .ok ()⟩ :: (body ++ [⟨.endCritical, ()⟩])) :=
  .span (B := criticalSpans) (r := ()) rfl hbody rfl .nil

/-! ## The firmware unlocker -/

namespace Ld

/-- A command of a firmware upload: the image, the metadata read and write, the verify step. -/
def IsFirmwareUpload (e : Event Scsi) : Prop := IsUpload e ∨ IsAdvisory e

theorem spanFree_of_isFirmwareUpload {e : Event Scsi} (h : IsFirmwareUpload e) : SpanFree e := by
  obtain ⟨o, r⟩ := e
  cases o with
  | execute => exact ⟨nofun, nofun, nofun⟩
  | _ => exact h.elim False.elim False.elim

abbrev KeepsSpans {α : Type} (x : Prog Scsi α) : Prop := Traces (Spanned IsFirmwareUpload) x

theorem keepsSpans_of_issues {α : Type} {P : Event Scsi → Prop} {x : Prog Scsi α}
    (hP : ∀ e, P e → OutsideSpans IsFirmwareUpload e) (hx : Issues P x) : KeepsSpans x :=
  .of_issues hx fun _ h => spanned_of_outside fun e he => hP e (h e he)

/-- A read of another length than the metadata's and the verify step's, or a command without data
that is no vendor command, is not part of an upload. -/
theorem outsideSpans_of_command {cdb data : List UInt8} {dir : DataDirection} {t : ℕ}
    {o : Outcome data.length} (h : dir = .fromDevice ∧ data.length ≠ validateResponseSize ∧
      data.length ≠ 16 ∨ dir = .none ∧ cdb.length ≠ 10) :
    OutsideSpans IsFirmwareUpload ⟨.execute cdb dir data t, o⟩ := by
  refine ⟨nofun, nofun, ?_⟩
  rcases h with ⟨rfl, h4, h16⟩ | ⟨rfl, hlen⟩
  · rintro (hup | ⟨-, ⟨-, hadv⟩ | ⟨-, hadv⟩⟩ | ⟨hadv, -⟩)
    · cases hup
    · exact h4 hadv
    · exact h16 hadv
    · cases hadv
  · rintro (hup | ⟨hadv, -⟩ | ⟨-, hadv⟩)
    · cases hup
    · cases hadv
    · exact hlen hadv

theorem outsideSpans_of_isUnlockRead {e : Event Scsi} (h : IsUnlockRead e) :
    OutsideSpans IsFirmwareUpload e := by
  obtain ⟨o, r⟩ := e
  cases o with
  | execute cdb dir data t =>
    obtain ⟨-, hdir, hlen⟩ := h
    exact outsideSpans_of_command (.inl ⟨hdir, hlen ▸ by decide, hlen ▸ by decide⟩)
  | _ => exact h.elim

theorem outsideSpans_of_isVidRead {e : Event Scsi} (h : IsVidRead e) :
    OutsideSpans IsFirmwareUpload e := by
  obtain ⟨o, r⟩ := e
  cases o with
  | execute cdb dir data t =>
    obtain ⟨-, hdir, hlen⟩ := h
    exact outsideSpans_of_command (.inl ⟨hdir, hlen ▸ by decide, hlen ▸ by decide⟩)
  | _ => exact h.elim

theorem outsideSpans_of_call {e : Event Scsi} {o : Op} (h : e.1 = o) (hbegin : o ≠ .beginCritical)
    (hend : o ≠ .endCritical) (ho : ∀ cdb dir data t, o ≠ .execute cdb dir data t) :
    OutsideSpans IsFirmwareUpload e := by
  obtain ⟨o', r⟩ := e
  obtain rfl : o' = o := h
  refine ⟨hbegin, hend, ?_⟩
  cases o' with
  | execute cdb dir data t => exact absurd rfl (ho cdb dir data t)
  | _ => exact fun h => h.elim id id

theorem outsideSpans_of_readCall {e : Event Scsi} (h : ReadCall e) :
    OutsideSpans IsFirmwareUpload e := by
  rcases h with h | h | h
  · exact outsideSpans_of_isUnlockRead h
  · exact outsideSpans_of_call h nofun nofun nofun
  · exact outsideSpans_of_call h nofun nofun nofun

theorem outsideSpans_of_pollCall {e : Event Scsi} (h : PollCall e) :
    OutsideSpans IsFirmwareUpload e := by
  rcases h with h | h | h | h
  · obtain ⟨o, r⟩ := e
    cases (h : o = _)
    exact outsideSpans_of_command (.inr ⟨rfl, by decide⟩)
  · obtain ⟨o, r⟩ := e
    cases (h : o = _)
    exact outsideSpans_of_command (.inr ⟨rfl, by decide⟩)
  · exact outsideSpans_of_call h nofun nofun nofun
  · exact outsideSpans_of_call h nofun nofun nofun

theorem outsideSpans_of_isCalibration {e : Event Scsi} (h : IsCalibration e) :
    OutsideSpans IsFirmwareUpload e := by
  refine ⟨?_, ?_, ?_⟩
  · exact fun ho => not_isCalibration_of_call ho nofun h
  · exact fun ho => not_isCalibration_of_call ho nofun h
  · rintro (hup | hadv)
    · exact not_isCalibration_of_isUpload hup h
    · exact not_isCalibration_of_isAdvisory hadv h

/-! The parts of a run -/

section Runs

variable {mt : Mt1959} {fuel : ℕ} {settled : Option Clock}

theorem composes : Composes (Spanned IsFirmwareUpload) := Guarded.composes

/-- The upload runs inside its span, and without the span not at all. -/
theorem keepsSpans_critical {x : Step Unit} (hx : Issues SpanFree x.run) :
    KeepsSpans (critical x).run := by
  intro τ r h
  obtain ⟨τ₁, opened, τ₂, rfl, h₁, h₂⟩ := run_bind_iff.mp h
  rw [run_ask_iff.mp h₁]
  rcases opened with err | ⟨⟩
  · rw [(run_pure_iff.mp h₂).1]
    exact spanned_refused fun _ => spanFree_of_isFirmwareUpload
  · obtain ⟨body, r', τ₃, rfl, hbody, h₃⟩ := run_bind_iff.mp h₂
    obtain ⟨τ₄, u, τ₅, rfl, h₄, h₅⟩ := run_bind_iff.mp h₃
    rw [run_ask_iff.mp h₄, (run_pure_iff.mp h₅).1]
    exact spanned_span (hx hbody)

theorem keepsSpans_doUnlock : KeepsSpans (doUnlock.prog mt) :=
  keepsSpans_of_issues (fun _ => outsideSpans_of_isUnlockRead) issues_doUnlock

theorem keepsSpans_unlockRead : KeepsSpans ((unlockRead fuel settled).prog mt) :=
  keepsSpans_of_issues (fun _ => outsideSpans_of_readCall) issues_unlockRead

theorem keepsSpans_confirm : KeepsSpans (confirm.prog mt) :=
  Stateful.traces_bind composes (.map keepsSpans_doUnlock) fun _ _ => .pure composes _

theorem keepsSpans_unlockRetries (n : ℕ) : KeepsSpans ((unlockRetries n).prog mt) := by
  induction n generalizing mt with
  | zero => exact Stateful.traces_bind composes keepsSpans_doUnlock fun _ _ => .pure composes _
  | succ n ih =>
    refine Stateful.traces_bind composes (.map keepsSpans_doUnlock) fun r t => ?_
    rcases r with e | response
    · dsimp only
      split_ifs
      · exact .pure composes _
      · exact ih
    · exact keepsSpans_confirm

theorem keepsSpans_loadFirmware : KeepsSpans (loadFirmware.prog mt) := by
  have hfree {cdb data : List UInt8} {dir : DataDirection} {t : ℕ} (o : Outcome data.length) :
      SpanFree ⟨.execute cdb dir data t, o⟩ := ⟨nofun, nofun, nofun⟩
  refine Stateful.traces_bind composes (.pure composes _) fun s t => ?_
  split_ifs
  · refine Stateful.traces_bind composes (.pure composes _) fun s t =>
      Stateful.traces_bind composes (.map (.ensure composes _ _)) fun _ t =>
      Stateful.traces_bind composes (.map (keepsSpans_critical ?_)) fun _ t =>
      Stateful.traces_bind composes keepsSpans_doUnlock fun _ t => keepsSpans_confirm
    exact .seq (issues_upload hfree) fun _ => issues_traceStep hfree
  · refine Stateful.traces_bind composes (.pure composes _) fun s t =>
      Stateful.traces_bind composes (.map (.ensure composes _ _)) fun _ t =>
      Stateful.traces_bind composes (.map (keepsSpans_critical ?_)) fun _ t =>
      keepsSpans_unlockRetries 5
    exact .seq (issues_upload hfree) fun _ => .seq (issues_traceStep hfree) fun _ =>
      .seq (issues_traceStep hfree) fun _ => issues_traceStep hfree

theorem keepsSpans_settleAfterUpload : KeepsSpans settleAfterUpload.run := by
  refine keepsSpans_of_issues (P := fun e => e.1 = .now ∨ e.1 = .pause uploadSettleMs) ?_ ?_
  · rintro e (h | h)
    · exact outsideSpans_of_call h nofun nofun nofun
    · exact outsideSpans_of_call h nofun nofun nofun
  · exact .seq (.lift (.ask fun _ => .inl rfl)) fun _ => .seq (issues_wait fun _ => .inr rfl)
      fun _ => .ret _

theorem keepsSpans_unlockConfirmed : KeepsSpans ((unlockConfirmed fuel settled).prog mt) := by
  cases settled with
  | none => exact .pure composes _
  | some clock =>
    exact Stateful.traces_bind composes (.map (keepsSpans_of_issues
      (fun _ => outsideSpans_of_pollCall) issues_awaitMediaReady)) fun _ _ => .pure composes _

theorem keepsSpans_unlockAttempt {lost : Error → Driver Unit}
    (hlost : ∀ e mt, KeepsSpans ((lost e).prog mt)) :
    KeepsSpans ((unlockAttempt fuel settled lost).prog mt) := by
  refine Stateful.traces_bind composes (.map keepsSpans_unlockRead) fun r t => ?_
  rcases r with e | response
  · dsimp only
    split_ifs
    · exact .pure composes _
    · exact .pure composes _
    · exact hlost e t
  · exact keepsSpans_unlockConfirmed

theorem keepsSpans_reload {next : Option Clock → Error → Driver Unit} {lastErr : Error}
    (hnext : ∀ settled e mt, KeepsSpans ((next settled e).prog mt)) :
    KeepsSpans ((reload next lastErr).prog mt) := by
  have hsettle (t : Mt1959) : KeepsSpans (Stateful.prog (do
      let clock ← Stateful.lift settleAfterUpload
      next (some clock) lastErr) t) :=
    Stateful.traces_bind composes (.map keepsSpans_settleAfterUpload) fun clock t => hnext _ _ t
  refine Stateful.traces_bind composes (.map keepsSpans_loadFirmware) fun r t => ?_
  rcases r with e | _
  · dsimp only
    split_ifs
    · exact .pure composes _
    · exact hsettle t
    · exact hnext _ _ t
  · exact hsettle t

theorem keepsSpans_initAttempts (n : ℕ) (settled : Option Clock) (lastErr : Error) :
    ∀ mt, KeepsSpans ((initAttempts fuel n settled lastErr).prog mt) := by
  induction n generalizing settled lastErr with
  | zero =>
    cases settled with
    | none => exact fun _ => .pure composes _
    | some clock => exact fun _ => keepsSpans_unlockAttempt fun _ _ => .pure composes _
  | succ n ih => exact fun _ => keepsSpans_unlockAttempt fun _ _ => keepsSpans_reload ih

theorem keepsSpans_init : KeepsSpans ((init fuel).prog mt) := by
  refine Stateful.traces_bind composes (.pure composes _) fun s t => ?_
  split_ifs
  · exact .pure composes _
  · exact keepsSpans_initAttempts _ _ _ t

theorem keepsSpans_calibrated (hid : mt.bufferId ≠ verifyBufferId) :
    KeepsSpans ((calibrated fuel).prog mt) := by
  have hprobe : KeepsSpans (probeDisc.prog mt) := by
    rintro τ ⟨r, mt'⟩ h
    rcases run_probeDisc h with ⟨rfl, -, -⟩ | ⟨h, -⟩
    · exact .nil
    · exact keepsSpans_of_issues (fun _ => outsideSpans_of_isCalibration) (issues_calibrate hid) h
  have hsettle : KeepsSpans (settle faultSettleMs).run := by
    refine keepsSpans_of_issues (P := fun e => e.1 = .now ∨ e.1 = .pause faultSettleMs) ?_ ?_
    · rintro e (h | h)
      · exact outsideSpans_of_call h nofun nofun nofun
      · exact outsideSpans_of_call h nofun nofun nofun
    · exact .seq (.lift (.ask fun _ => .inl rfl)) fun _ => issues_wait fun _ => .inr rfl
  have hfault (t : Mt1959) : KeepsSpans ((reconfirmAfterFault fuel).prog t) := by
    refine Stateful.traces_bind composes (.map (.map hsettle)) fun _ t => Stateful.traces_bind
      composes (.map (keepsSpans_of_issues (fun _ => outsideSpans_of_readCall)
        issues_reconfirmUnlock)) fun b t => ?_
    split_ifs <;> exact .pure composes _
  refine Stateful.traces_bind composes (.map hprobe) fun r t => ?_
  rcases r with e | _
  · dsimp only
    split_ifs
    · exact hfault t
    · exact .pure composes _
  · exact .pure composes _

theorem keepsSpans_firmwareUnlockWith (hid : mt.bufferId ≠ verifyBufferId)
    (hinit : mt.initComplete = false) : KeepsSpans ((firmwareUnlockWith fuel).prog mt) := by
  rintro τ ⟨r, mt'⟩ h
  rcases run_firmwareUnlockWith h with ⟨-, _, _, h₁⟩ | ⟨τ₁, t, τ₂, r₂, t₂, τ₃, rfl, h₁, -, h₂, hend⟩
  · exact keepsSpans_init h₁
  have hid' : t.bufferId ≠ verifyBufferId := by
    rwa [show t.bufferId = mt.bufferId from congrArg (·.2.2) (run_init_ok hinit h₁).1]
  refine ((keepsSpans_init h₁).append (keepsSpans_calibrated hid' h₂)).append ?_
  refine spanned_of_outside fun e he => ?_
  rcases hend with ⟨-, -, -, rfl⟩ | ⟨-, rfl | ⟨e', rfl, hvid⟩⟩
  · cases he
  · cases he
  · exact List.mem_singleton.mp he ▸ outsideSpans_of_isVidRead hvid

theorem keepsSpans_unlock {catalog : Option Profiles} {ctx : UnlockCtx} :
    KeepsSpans (unlock catalog fuel ctx).run := by
  intro τ r h
  rcases run_unlock h with ⟨rfl, -⟩ | ⟨_, _, mt, mt', r', -, -, -, hinit, hid, hrun, -⟩
  · exact .nil
  · exact keepsSpans_firmwareUnlockWith hid hinit hrun

end Runs

end Ld

/-! ## The freemkv unlocker -/

namespace Freemkv

/-- A write to the drive's memory. -/
def WritesRam (e : Event Scsi) : Prop := Renesas.dataOut? e ≠ none

theorem spanFree_of_writesRam {e : Event Scsi} (h : WritesRam e) : SpanFree e := by
  obtain ⟨o, r⟩ := e
  cases o with
  | diagnosticMemory => exact ⟨nofun, nofun, nofun⟩
  | _ => exact absurd rfl h

theorem outsideSpans_of_quiet {e : Event Scsi} (h : Renesas.Quiet e) : OutsideSpans WritesRam e :=
  ⟨h.2.1, h.2.2, fun hw => hw h.1⟩

theorem spanFree_reads : Renesas.HoldsOfReads SpanFree :=
  ⟨fun _ _ _ _ _ => ⟨nofun, nofun, nofun⟩, fun _ _ _ _ => ⟨nofun, nofun, nofun⟩⟩

abbrev KeepsSpans {α : Type} (x : Prog Scsi α) : Prop := Traces (Spanned WritesRam) x

theorem composes : Composes (Spanned WritesRam) := Guarded.composes

theorem keepsSpans_of_quiet {α : Type} {x : Prog Scsi α} (hx : Issues Renesas.Quiet x) :
    KeepsSpans x :=
  .of_issues hx fun _ h => spanned_of_outside fun e he => outsideSpans_of_quiet (h e he)

theorem keepsSpans_criticalSpan {α : Type} {body : Prog Scsi α} (hbody : Issues SpanFree body) :
    KeepsSpans (criticalSpan body).run := by
  intro τ r h
  rcases run_criticalSpan h with ⟨e, rfl, -⟩ | ⟨τ', a, rfl, h, -⟩
  · exact spanned_refused fun _ => spanFree_of_writesRam
  · exact spanned_span (hbody h)

theorem keepsSpans_unlockBackend {σ : Type} {B : Backend σ} {s : σ} {installed : Bool}
    (hbody : Issues SpanFree (transaction B s installed))
    (htune : Issues Renesas.Quiet B.tune.run) :
    KeepsSpans (unlockBackend B s installed).run := by
  refine .seq composes (keepsSpans_criticalSpan hbody) fun finished =>
    .seq composes (.result composes _) fun r =>
    .seq composes (keepsSpans_of_quiet Renesas.quiet_checkpoint) fun _ => ?_
  split_ifs
  · exact .seq composes (keepsSpans_of_quiet htune) fun _ => .result composes _
  · exact .result composes _

theorem issues_activatePreinstalled (c : Protocol.Capabilities) :
    Issues SpanFree (activateBackend (preinstalled c) ()).run :=
  issues_activateBackend spanFree_reads.command (.ret ())
    (issues_readAacsVid spanFree_reads.command)

section Runs

variable {U : FreemkvUnlocker} {driveId : DriveId} {loader : LiveLoader}

theorem keepsSpans_loadMediatek (hload : Issues SpanFree loader.load.run) :
    KeepsSpans (FreemkvUnlocker.loadMediatek loader).run := by
  refine .seq composes (keepsSpans_criticalSpan ?_) fun r =>
    .seq composes (keepsSpans_of_quiet Renesas.quiet_checkpoint) fun _ => .result composes _
  exact .seq hload fun _ => .seq (issues_probe spanFree_reads.command) fun _ =>
    .seq (.result _) fun _ => .seq (.ensure _ _) fun _ => issues_activatePreinstalled _

theorem keepsSpans_runSelected (selection : Selection)
    (hload : ∀ loader, selection = .mediatek loader → Issues SpanFree loader.load.run) :
    KeepsSpans (U.runSelected selection).run := by
  cases selection with
  | preinstalled c =>
    refine .seq composes (.pure composes _) fun s => keepsSpans_unlockBackend ?_ (.ret ())
    rw [transaction_preinstalled]
    exact .map (issues_activatePreinstalled c)
  | mediatek loader => exact keepsSpans_loadMediatek (hload loader rfl)
  | renesas installed =>
    have hprepare : Issues Renesas.Quiet
        (Renesas.prepareBackend U.pioneer .new installed).run :=
      .seq (.mapErr _ (Renesas.issues_prepare Renesas.quiet_reads _)) fun _ => .ret _
    refine .seq composes (keepsSpans_of_quiet hprepare) fun s => keepsSpans_unlockBackend ?_
      Renesas.issues_configure
    refine Renesas.issues_transaction spanFree_reads (fun profile cpu bytes => ?_) s installed
    exact .seq (.result _) fun _ => .seq (.lift (.ask fun _ => ⟨nofun, nofun, nofun⟩)) fun _ =>
      .result _

/-! The live loader -/

def FreemkvUnlocker.withoutLoader (U : FreemkvUnlocker) : FreemkvUnlocker :=
  { U with mediatekLoader := none }

/-- What a run does with the live loader: nothing, also where its span is refused, or it loads
first thing in the one span of the run. -/
inductive LoadsInSpan (U : FreemkvUnlocker) (driveId : DriveId) :
    List (Event Scsi) → Except UnlockError (Option Unlocked) → Prop
  | unused {τ r} : Run (U.withoutLoader.unlock driveId).run τ r → LoadsInSpan U driveId τ r
  | refused {loader o err} : U.mediatekLoader = some loader →
      LoadsInSpan U driveId [identityProbe o, ⟨.beginCritical, .error err⟩] (.error .transport)
  | loaded {loader o load after p loadResult r} : U.mediatekLoader = some loader →
      Run loader.load.run load loadResult → (∀ e ∈ after, SpanFree e) →
      ((∃ e, loadResult = .error e) → after = []) →
      LoadsInSpan U driveId (identityProbe o :: ⟨.beginCritical, .ok ()⟩ ::
        (load ++ after ++ [⟨.endCritical, ()⟩, ⟨.pause 0, p⟩])) r

/-- The loader is chosen right after the probe, or the choice is the same without it. -/
theorem run_selectBackend {τ : List (Event Scsi)} {r : Except UnlockError Selection}
    (h : Run (U.selectBackend driveId).run τ r) :
    (∃ loader o, r = .ok (.mediatek loader) ∧ U.mediatekLoader = some loader ∧
      τ = [identityProbe o]) ∨
    (∀ loader, r ≠ .ok (.mediatek loader)) ∧
      Run (U.withoutLoader.selectBackend driveId).run τ r := by
  rcases run_fallible_bind_iff.mp h with ⟨e, rfl, h₁⟩ | ⟨τ₁, found, τ₂, rfl, h₁, h₂⟩
  · exact .inr ⟨nofun, run_fallible_bind_iff.mpr (.inl ⟨e, rfl, h₁⟩)⟩
  cases found with
  | some id =>
    refine .inr ⟨fun loader hr => ?_, run_fallible_bind_iff.mpr (.inr ⟨τ₁, _, τ₂, rfl, h₁, h₂⟩)⟩
    dsimp only at h₂
    split_ifs at h₂ <;> cases hr.symm.trans (run_fallible_pure_iff.mp h₂).2
  | none =>
    dsimp only at h₂
    split at h₂
    · rename_i loader hfilter
      obtain ⟨rfl, rfl⟩ := run_fallible_pure_iff.mp h₂
      obtain ⟨o, rfl, -⟩ := run_ask_result_iff.mp h₁
      exact .inl ⟨loader, o, rfl, (Option.filter_eq_some_iff.mp hfilter).1, rfl⟩
    · refine .inr ⟨fun loader hr => ?_, run_fallible_bind_iff.mpr (.inr ⟨τ₁, _, τ₂, rfl, h₁, h₂⟩)⟩
      subst hr
      split_ifs at h₂
      · cases (run_throw_iff.mp h₂).2
      · rcases run_fallible_bind_iff.mp h₂ with ⟨e, he, -⟩ | ⟨σ₁, renesas, σ₂, -, -, h₃⟩
        · cases he
        · split_ifs at h₃
          · cases (run_fallible_pure_iff.mp h₃).2
          · cases (run_throw_iff.mp h₃).2

theorem runSelected_withoutLoader {selection : Selection}
    (h : ∀ loader, selection ≠ .mediatek loader) :
    U.withoutLoader.runSelected selection = U.runSelected selection := by
  cases selection with
  | mediatek loader => exact absurd rfl (h loader)
  | _ => rfl

/-- A refused span loads nothing; in an opened one the loader comes first. -/
theorem run_loadMediatek {τ : List (Event Scsi)} {r : Except UnlockError Unlocked}
    (h : Run (FreemkvUnlocker.loadMediatek loader).run τ r) :
    (∃ err, τ = [⟨.beginCritical, .error err⟩] ∧ r = .error .transport) ∨
      ∃ (load after : List (Event Scsi)) (loadResult : Except UnlockError Unit)
        (p : Except ScsiError Unit), Run loader.load.run load loadResult ∧
        (∀ e ∈ after, SpanFree e) ∧ ((∃ e, loadResult = .error e) → after = []) ∧
        τ = ⟨.beginCritical, .ok ()⟩ :: (load ++ after ++ [⟨.endCritical, ()⟩, ⟨.pause 0, p⟩]) := by
  rcases run_fallible_bind_iff.mp h with ⟨e, rfl, h₁⟩ | ⟨τ₁, a, τ₂, rfl, h₁, h₂⟩
  · rcases run_criticalSpan h₁ with ⟨e', rfl, he⟩ | ⟨_, _, -, -, he⟩
    · obtain rfl := Except.error.inj he
      exact .inl ⟨e', rfl, rfl⟩
    · cases he
  rcases run_criticalSpan h₁ with ⟨e', -, he⟩ | ⟨body, a', rfl, hbody, ha⟩
  · cases he
  obtain ⟨p, rfl⟩ : ∃ p : Except ScsiError Unit, τ₂ = [⟨.pause 0, p⟩] := by
    rcases run_fallible_bind_iff.mp h₂ with ⟨e, -, h₃⟩ | ⟨τ₃, u, τ₄, rfl, h₃, h₄⟩
    · obtain ⟨p, rfl, -⟩ := run_ask_result_iff.mp h₃
      exact ⟨p, rfl⟩
    · obtain ⟨p, rfl, -⟩ := run_ask_result_iff.mp h₃
      obtain ⟨rfl, -⟩ := run_result_iff.mp h₄
      exact ⟨p, rfl⟩
  refine .inr ?_
  rcases run_fallible_bind_iff.mp hbody with ⟨e, -, h₃⟩ | ⟨load, u, after, rfl, h₃, h₄⟩
  · exact ⟨body, [], .error e, p, h₃, List.forall_mem_nil _, fun _ => rfl, by simp⟩
  · refine ⟨load, after, .ok u, p, h₃, ?_, nofun, by simp⟩
    have hafter : Issues SpanFree (do
        let id ← probe
        let id ← result (okOr id .notApplicable)
        ensure (id.capabilities.implementation = .firmware) .notApplicable
        activateBackend (preinstalled id.capabilities) () : Step Unlocked).run :=
      .seq (issues_probe spanFree_reads.command) fun _ => .seq (.result _) fun _ =>
        .seq (.ensure _ _) fun _ => issues_activatePreinstalled _
    exact hafter h₄

/-- Every run of the freemkv unlocker keeps the spans, if the live loader leaves them alone. -/
theorem keepsSpans_unlock {τ : List (Event Scsi)} {r : Except UnlockError (Option Unlocked)}
    (hload : ∀ loader, U.mediatekLoader = some loader → Issues SpanFree loader.load.run)
    (h : Run (U.unlock driveId).run τ r) : Spanned WritesRam τ ∧ LoadsInSpan U driveId τ r := by
  obtain ⟨r', hrun, rfl⟩ := run_map_iff.mp h
  rcases run_fallible_bind_iff.mp hrun with ⟨e, rfl, h₁⟩ | ⟨τ₁, selection, τ₂, rfl, h₁, h₂⟩
  · refine ⟨keepsSpans_of_quiet Renesas.issues_selectBackend h₁, .unused ?_⟩
    rcases run_selectBackend h₁ with ⟨loader, o, hr, -⟩ | ⟨-, h₁⟩
    · cases hr
    · exact run_map_iff.mpr ⟨_, run_fallible_bind_iff.mpr (.inl ⟨e, rfl, h₁⟩), rfl⟩
  have hbefore : Spanned WritesRam τ₁ := keepsSpans_of_quiet Renesas.issues_selectBackend h₁
  rcases run_selectBackend h₁ with ⟨loader, o, hr, hloader, rfl⟩ | ⟨hne, h₁⟩
  · obtain rfl := Except.ok.inj hr
    refine ⟨hbefore.append (keepsSpans_loadMediatek (hload loader hloader) h₂), ?_⟩
    rcases run_loadMediatek h₂ with ⟨err, rfl, rfl⟩ | ⟨load, after, q, p, hl, hafter, hstop, rfl⟩
    · exact .refused hloader
    · exact .loaded hloader hl hafter hstop
  · have hne' : ∀ loader, selection ≠ .mediatek loader := fun loader hs => hne loader (hs ▸ rfl)
    refine ⟨hbefore.append (keepsSpans_runSelected selection
      (fun loader hs => absurd hs (hne' loader)) h₂), .unused ?_⟩
    rw [← runSelected_withoutLoader hne'] at h₂
    exact run_map_iff.mpr ⟨_, run_fallible_bind_iff.mpr (.inr ⟨τ₁, _, τ₂, rfl, h₁, h₂⟩), rfl⟩

end Runs

end Freemkv

/-! ## Both unlockers -/

/-- The freemkv and the firmware unlocker keep their uploads inside critical spans. -/
theorem unlock_criticalDiscipline :
    (∀ (U : Freemkv.FreemkvUnlocker) (driveId : DriveId) (τ : List (Event Scsi))
      (r : Except UnlockError (Option Unlocked)),
      (∀ loader, U.mediatekLoader = some loader → Issues SpanFree loader.load.run) →
      Run (U.unlock driveId).run τ r →
      CriticalDiscipline Freemkv.WritesRam τ ∧ Freemkv.LoadsInSpan U driveId τ r) ∧
    ∀ (catalog : Option Ld.Profiles) (fuel : ℕ) (ctx : UnlockCtx) (τ : List (Event Scsi))
      (r : Except UnlockError (Option Unlocked)), Run (Ld.unlock catalog fuel ctx).run τ r →
      CriticalDiscipline Ld.IsFirmwareUpload τ := by
  refine ⟨fun U driveId τ r hload h => ?_, fun catalog fuel ctx τ r h => ?_⟩
  · obtain ⟨hspans, hloads⟩ := Freemkv.keepsSpans_unlock hload h
    exact ⟨hspans.criticalDiscipline fun _ => Freemkv.spanFree_of_writesRam, hloads⟩
  · exact Spanned.criticalDiscipline (fun _ => Ld.spanFree_of_isFirmwareUpload)
      (Ld.keepsSpans_unlock h)

/-- A loader that sends one byte. -/
def Freemkv.sampleLoader : Freemkv.LiveLoader where
  isMediatek _ := true
  load := do
    let _ ← ExceptT.lift (Scsi.execute [Ld.scsiWriteBuffer] .toDevice [0xAA] 5000)
    pure ()

def Freemkv.loadingUnlocker : Freemkv.FreemkvUnlocker :=
  { Freemkv.bareUnlocker with mediatekLoader := some Freemkv.sampleLoader }

theorem unlock_criticalDiscipline_sample : ∃ τ r τ', τ ≠ [] ∧ τ' ≠ [] ∧
    CriticalDiscipline Freemkv.WritesRam τ ∧
    Freemkv.LoadsInSpan Freemkv.loadingUnlocker Freemkv.blankDrive τ r ∧
    CriticalDiscipline Ld.IsFirmwareUpload τ' := by
  have hload : (exec (Freemkv.repliesWith [] 0)
      (Freemkv.loadingUnlocker.unlock Freemkv.blankDrive).run
      ()).any (fun x => !x.2.1.isEmpty) = true := by decide +kernel
  have hld : (exec Ld.uploadedDrive
      (Ld.unlock (some ⟨[Ld.sampleProfile], [], []⟩) 1 Ld.sampleCtx).run
      false).any (fun x => !x.2.1.isEmpty) = true := by decide +kernel
  obtain ⟨r, τ, _, hrun, hτ⟩ := exists_run_of_any hload
  obtain ⟨r', τ', _, hrun', hτ'⟩ := exists_run_of_any hld
  have hfree : ∀ loader, Freemkv.loadingUnlocker.mediatekLoader = some loader →
      Issues SpanFree loader.load.run := by
    intro loader hl
    obtain rfl : Freemkv.sampleLoader = loader := Option.some.inj hl
    exact .seq (.lift (.ask fun _ => ⟨nofun, nofun, nofun⟩)) fun _ => .ret _
  have h := unlock_criticalDiscipline.1 _ _ τ r hfree hrun
  have h' := unlock_criticalDiscipline.2 _ _ _ τ' r' hrun'
  exact ⟨τ, r, τ', by simpa using hτ, by simpa using hτ', h.1, h.2, h'⟩

end FreemkvUnlock
