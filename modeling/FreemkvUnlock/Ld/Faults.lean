import FreemkvUnlock.DeadBus
import FreemkvUnlock.Ld.Calls

/-! # Faults of the transport

A fault that any call of the driver meets is its error, after which nothing is sent any more;
conversely the driver never makes a fault up. What is read of the host's clock after a fault, and
the report that a critical span is over, are no commands.
-/

namespace FreemkvUnlock.Ld

open Interaction Fallible

def busFault : Error := .ofScsiError ⟨scsiStatusTransportFailure, none⟩

def IsLocal (e : Event Scsi) : Prop := e.1 = .now ∨ e.1 = .endCritical

abbrev ReportsFault {α : Type} : Except Error α → Prop := Fails (· = busFault)

/-- Steps that end with the fault they meet. -/
abbrev FaultStop {α : Type} (x : Step α) : Prop := HaltsOn Faulty (AllOf IsLocal) ReportsFault x.run

/-- Driver steps that end with the fault they meet. -/
abbrev FaultStops {α : Type} (x : Driver α) : Prop :=
  ∀ mt, HaltsOn Faulty (AllOf IsLocal) (fun q => ReportsFault q.1) (x.prog mt)

/-! ## Calls -/

section Calls

variable {cdb data : List UInt8} {dir : DataDirection} {t ms n : ℕ} {clock : Clock} {mt : Mt1959}

theorem ofScsiError_eq_busFault_iff {e : ScsiError} :
    Error.ofScsiError e = busFault ↔ isDeadBus e = true := by
  obtain ⟨status, sense⟩ := e
  cases sense <;> simp [busFault, Error.ofScsiError, isDeadBus]

theorem reportsFault_mapError_iff {α : Type} {r : Except ScsiError α} :
    ReportsFault (r.mapError Error.ofScsiError) ↔ FoundDead r := by
  unfold FoundDead
  rcases r with e | a
  · simpa [Except.mapError] using ofScsiError_eq_busFault_iff
  · simp [Except.mapError]

theorem isTransportFailure_busFault : busFault.isTransportFailure = true := by decide

theorem faultStop_issue : FaultStop (issue cdb dir data t) := by
  refine .askResult (fun o => ?_) nofun
  change _ ↔ FoundDead o.result
  rw [← reportsFault_mapError_iff]
  rcases o.result.mapError Error.ofScsiError with e | r <;> exact Iff.rfl

theorem faultStop_elapsed : FaultStop clock.elapsed :=
  .seq (.lift (.ask fun _ => id)) fun _ => .ret _

theorem faultStop_readyClock : FaultStop readyClock := .lift (.ask fun _ => id)

theorem faultStop_wait : FaultStop (wait ms) :=
  .askResult (fun _ => reportsFault_mapError_iff) nofun

theorem not_busFault_of_sense {opcode status : UInt8} {s : Vector UInt8 32} :
    Error.scsi opcode status (some s) ≠ busFault := nofun

theorem checkResponse_ne_busFault {r : ScsiResult} {response : List UInt8} (e : Error)
    (h : mt.checkResponse r response = .error e) : e ≠ busFault := by
  unfold Mt1959.checkResponse at h
  split_ifs at h <;> obtain rfl := Except.error.inj h <;> nofun

end Calls

/-! ## The driver's reads -/

section Reads

variable {mt : Mt1959} {clock : Clock} {start fuel : ℕ}

theorem faultStops_lift {α : Type} {x : Step α} (hx : FaultStop x) :
    FaultStops (Stateful.lift x : Driver α) := fun _ => hx.map fun _ => Iff.rfl

theorem faultStops_ret {α : Type} (a : α) : FaultStops (pure a : Driver α) := fun _ => .pure id

theorem faultStops_doUnlock : FaultStops doUnlock := by
  intro mt
  refine Stateful.haltsOn_bind (.pure id) fun s t =>
    Stateful.haltsOn_bind (faultStops_lift faultStop_issue t) fun ⟨r, response⟩ t =>
    Stateful.haltsOn_bind (faultStops_lift ?_ t) fun _ t =>
    Stateful.haltsOn_bind (.pure id) fun _ t => .pure id
  exact .result checkResponse_ne_busFault

def ReadFault {α : Type} : Except Error (Except Error α) → Prop
  | .ok r => ReportsFault r
  | .error e => e = busFault

def TryFault {α : Type} : Except Error (Option (Except Error α)) → Prop
  | .ok (some r) => ReportsFault r
  | .ok none => False
  | .error e => e = busFault

theorem isRestartSense_busFault : isRestartSense busFault = false := by decide

theorem haltsOn_reconfirmOnce (clock : Clock) (start : ℕ) (mt : Mt1959) :
    HaltsOn Faulty (AllOf IsLocal) (fun q => TryFault q.1)
      ((reconfirmOnce clock start).prog mt) := by
  refine Stateful.haltsOn_attempt_bind (faultStops_doUnlock mt) (fun r t τ q hR h => ?_)
    fun r t hR => ?_
  · rcases r with e | response
    · obtain rfl : e = busFault := hR
      -- after the fault the clock is read once more before the error is passed on
      obtain ⟨q, t''⟩ := q
      rcases Stateful.run_bind_iff.mp h with ⟨e, -, h₁⟩ | ⟨τ₁, now, t', τ₂, rfl, h₁, h₂⟩
      · obtain ⟨_, -, he⟩ := run_elapsed_iff.mp (Stateful.run_lift_iff.mp h₁).1
        cases he
      · obtain ⟨now, rfl, -⟩ := run_elapsed_iff.mp (Stateful.run_lift_iff.mp h₁).1
        simp only [isRestartSense_busFault, Bool.false_eq_true, and_false, if_false] at h₂
        obtain ⟨rfl, rfl, -⟩ := Stateful.run_pure_iff.mp h₂
        exact ⟨List.forall_mem_singleton.mpr (.inl rfl), rfl⟩
    · exact hR.elim
  · rcases r with e | response
    · refine Stateful.haltsOn_bind_of_run (fun _ => Iff.rfl) (faultStops_lift faultStop_elapsed t)
        fun _ now t _ => ?_
      split_ifs
      · refine Stateful.haltsOn_bind_of_run (fun _ => Iff.rfl) (faultStops_lift faultStop_wait t)
          fun _ _ t _ => .pure id
      · exact .pure hR
    · exact .pure id

theorem faultStops_unlockRead {settled : Option Clock} :
    FaultStops (unlockRead fuel settled) := by
  cases settled with
  | none => exact faultStops_doUnlock
  | some clock =>
    intro mt
    refine Stateful.haltsOn_bind (faultStops_lift faultStop_elapsed mt) fun start t => ?_
    have hretry := Stateful.haltsOn_retry (R := ReadFault)
      (haltsOn_reconfirmOnce clock start)
      (fun _ => Iff.rfl) (fun _ => Iff.rfl) id fuel t
    rw [Stateful.prog_bind]
    refine hretry.bind_tail (fun q τ q' hq h => ?_) fun q hq => ?_
    · rcases q with ⟨e | r, t'⟩
      · obtain ⟨rfl, rfl⟩ := run_pure_iff.mp h
        exact ⟨nofun, hq⟩
      · obtain ⟨rfl, rfl⟩ := run_pure_iff.mp h
        exact ⟨nofun, hq⟩
    · rcases q with ⟨e | r, t'⟩
      · exact .pure hq
      · exact .pure hq

end Reads

/-! ## Readiness -/

section Readiness

variable {clock : Clock} {answer : ScsiSense} {fuel : ℕ}

abbrev PollStops {α : Type} (x : Polling α) : Prop :=
  ∀ poll, HaltsOn Faulty (AllOf IsLocal) (fun q => ReportsFault q.1) (x.prog poll)

theorem pollStops_lift {α : Type} {x : Step α} (hx : FaultStop x) :
    PollStops (Stateful.lift x : Polling α) := fun _ => hx.map fun _ => Iff.rfl

theorem faultStop_testUnitReady : FaultStop testUnitReady := by
  refine .askResult (fun o => ?_) nofun
  change _ ↔ FoundDead o.result
  unfold turReply FoundDead
  rcases o.result with ⟨status, _ | sense⟩ | r
  · simpa using ofScsiError_eq_busFault_iff (e := ⟨status, none⟩)
  · simp [isDeadBus]
  · dsimp only
    split_ifs <;> simp

theorem faultStop_startUnit : FaultStop startUnit := by
  refine .askResult (fun o => ?_) nofun
  change _ ↔ FoundDead o.result
  unfold startUnitReply FoundDead
  rcases o.result with ⟨status, _ | sense⟩ | r
  · simpa using ofScsiError_eq_busFault_iff (e := ⟨status, none⟩)
  · simp [isDeadBus]
  · simp

theorem pollStops_startOnce : PollStops (startOnce clock answer) := by
  intro poll
  refine Stateful.haltsOn_bind (.pure id) fun s t => ?_
  split_ifs
  · exact Stateful.haltsOn_bind (pollStops_lift faultStop_elapsed t) fun now t =>
      Stateful.haltsOn_bind (.pure id) fun _ t => pollStops_lift faultStop_startUnit t
  · exact .pure id

theorem pollStops_progress : PollStops (progress clock answer) := by
  intro poll
  refine Stateful.haltsOn_bind (.pure id) fun s t =>
    Stateful.haltsOn_bind (pollStops_lift faultStop_elapsed t) fun now t => ?_
  split_ifs
  · exact .pure id
  · exact .pure id
  · exact Stateful.haltsOn_bind (.pure id) fun _ t => .pure id

theorem pollStops_pollOnce : PollStops (pollOnce clock) := by
  intro poll
  refine Stateful.haltsOn_bind (pollStops_lift faultStop_testUnitReady poll) fun sense t => ?_
  rcases sense with _ | sense
  · exact .pure id
  refine Stateful.haltsOn_bind (.pure id) fun s t =>
    Stateful.haltsOn_bind (.pure id) fun _ t => ?_
  cases (s.note (ScsiSense.fromBuf sense)).outcome (ScsiSense.fromBuf sense) with
  | some outcome => exact .pure id
  | none =>
    refine Stateful.haltsOn_bind (pollStops_startOnce t) fun _ t =>
      Stateful.haltsOn_bind (pollStops_progress t) fun o t => ?_
    cases o with
    | some outcome => exact .pure id
    | none =>
      exact Stateful.haltsOn_bind (pollStops_lift faultStop_wait t) fun _ t => .pure id

theorem faultStop_awaitMediaReady : FaultStop (awaitMediaReady fuel clock) := by
  refine .seq faultStop_elapsed fun t => ?_
  exact (Stateful.haltsOn_retry pollStops_pollOnce (fun _ => Iff.rfl) (fun _ => Iff.rfl) id
    fuel _).map fun _ => Iff.rfl

end Readiness

/-! ## Calibration and upload -/

section Commands

variable {mt : Mt1959} {x : Step Unit} {subCmd : UInt8} {address : UInt16} {expected : ℕ}

theorem faultStop_readBufferProbe : FaultStop (mt.readBufferProbe subCmd address expected) :=
  .seq faultStop_issue fun _ => .seq (.ensure not_busFault_of_sense) fun _ => .ret _

theorem faultStop_probeStep {f : Error → Except Error Unit}
    (hf : ∀ e, ReportsFault (f e) ↔ e = busFault) {g : Step Unit} (hg : FaultStop g) :
    FaultStop (ExceptT.mk do
      match ← (mt.readBufferProbe subCmd address expected).run with
      | .error e => pure (f e)
      | .ok _ => g.run) := by
  refine HaltsOn.bind_tail faultStop_readBufferProbe (fun r τ b hR h => ?_) fun r hR => ?_
  · rcases r with e | n
    · obtain ⟨rfl, rfl⟩ := run_pure_iff.mp h
      exact ⟨nofun, (hf e).mpr hR⟩
    · exact hR.elim
  · rcases r with e | n
    · exact .pure fun h => hR ((hf e).mp h)
    · exact hg

theorem tolerated_iff (e : Error) :
    ReportsFault (if e.isTransportFailure then .error e else .ok () : Except Error Unit) ↔
      e = busFault := by
  split_ifs with h
  · exact Iff.rfl
  · exact iff_of_false id fun he => h (he ▸ isTransportFailure_busFault)

theorem faultStop_probeInit : FaultStop (mt.probeInit address) :=
  faultStop_probeStep tolerated_iff (.ret ())

theorem faultStop_validateLoop (n : ℕ) : FaultStop (validateLoop mt n) := by
  induction n with
  | zero => exact .throw nofun
  | succ n ih =>
    refine .seq faultStop_issue fun ⟨r, _⟩ => ?_
    dsimp only
    split_ifs
    · exact .ret ()
    · exact ih

theorem faultStop_coarseProbes (addresses : List UInt16) :
    FaultStop (mt.coarseProbes addresses) :=
  .forM (fun address => faultStop_probeStep
    (f := fun e => .error (if e.isTransportFailure then e else .unlockFailed)) (fun e => by
      split_ifs with h
      · exact Iff.rfl
      · exact iff_of_false nofun fun he => h (he ▸ isTransportFailure_busFault))
    (.ret ())) addresses

theorem faultStop_fineProbes (addresses : List UInt16) : FaultStop (mt.fineProbes addresses) := by
  induction addresses with
  | nil => exact .ret ()
  | cons address addresses ih =>
    exact faultStop_probeStep tolerated_iff ih

theorem faultStop_probes : FaultStop (probes mt) :=
  .seq faultStop_issue fun _ => .seq faultStop_probeInit fun _ =>
    .seq (faultStop_validateLoop 5) fun _ => .seq (faultStop_coarseProbes _) fun _ =>
    faultStop_fineProbes _

end Commands

end FreemkvUnlock.Ld
