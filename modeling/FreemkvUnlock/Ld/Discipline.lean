import FreemkvUnlock.Ld.Confirmation
import FreemkvUnlock.Ld.Faults
import FreemkvUnlock.Ld.Termination

/-! # The discipline of the initialization

A drive that was sent firmware restarts, and a command into a restarting drive can wedge it. A run
of the initialization is a course of at most three turns, each a read that failed and an upload;
an upload that went through is followed by silence, then by reads and not by another upload.
-/

namespace FreemkvUnlock.Ld

open Interaction Fallible

/-! ## Turns -/

structure Turn where
  read : List (Event Scsi)
  load : List (Event Scsi)
  loaded : Except Error Unit
  silence : List (Event Scsi)

def Turn.trace (turn : Turn) : List (Event Scsi) := turn.read ++ turn.load ++ turn.silence

/-- An upload after which the drive restarts: a success, or the sense of a restarting drive. -/
def Restarts : Except Error Unit → Prop
  | .ok _ => True
  | .error e => isRestartSense e = true

/-- What comes after a turn: the reads of the next one, or the end of the initialization. -/
def following : List Turn → List (Event Scsi) → List (Event Scsi)
  | [], last => last
  | turn :: _, _ => turn.read

/-- Re-confirm reads that began `start` after the clock was started: one that a restarting drive
answers is followed by a one-second pause and another read, as long as the window is open. -/
inductive Rereads (mt : Mt1959) (clock start : ℕ) : List (Event Scsi) → Prop
  | passed {o : Outcome _} {unlocked : Bool} (h : unlockReply mt o = .ok unlocked) :
      Rereads mt clock start [⟨unlockReadOp mt, o⟩]
  | failed {o : Outcome _} {e : Error} (t : ℕ) (h : unlockReply mt o = .error e)
      (hend : ¬ (t - clock - start < readyStall ∧ isRestartSense e = true)) :
      Rereads mt clock start [⟨unlockReadOp mt, o⟩, ⟨.now, t⟩]
  | stopped {o : Outcome _} {e : Error} (t : ℕ) (err : ScsiError) (h : unlockReply mt o = .error e)
      (hopen : t - clock - start < readyStall ∧ isRestartSense e = true) :
      Rereads mt clock start
        [⟨unlockReadOp mt, o⟩, ⟨.now, t⟩, ⟨.pause reconfirmSensePauseMs, Except.error err⟩]
  | again {o : Outcome _} {e : Error} {τ : List (Event Scsi)} (t : ℕ)
      (h : unlockReply mt o = .error e)
      (hopen : t - clock - start < readyStall ∧ isRestartSense e = true)
      (hτ : Rereads mt clock start τ) :
      Rereads mt clock start
        (⟨unlockReadOp mt, o⟩ :: ⟨.now, t⟩ :: ⟨.pause reconfirmSensePauseMs, Except.ok ()⟩ :: τ)

/-- A re-confirm: its reads, and the readiness poll once one of them passed. -/
def Reconfirms (mt : Mt1959) (clock : ℕ) (τ : List (Event Scsi)) : Prop :=
  ∃ (t : ℕ) (reads poll : List (Event Scsi)), τ = ⟨.now, t⟩ :: (reads ++ poll) ∧
    Rereads mt clock (t - clock) reads ∧ ∀ e ∈ poll, PollCall e

/-- The silence after an upload and what may come next: nothing when the pause is refused, else
an unlock read. -/
def Settled (mt : Mt1959) (silence : List (Event Scsi)) (turns : List Turn)
    (last : List (Event Scsi)) : Prop :=
  ∃ (clock : ℕ) (p : Except ScsiError Unit),
    silence = [⟨.now, clock⟩, ⟨.pause uploadSettleMs, p⟩] ∧
    ((∃ err, p = .error err) → turns = [] ∧ last = []) ∧
    (p = .ok () → Reconfirms mt clock (following turns last) ∧
      ∃ e τ, transport (following turns last) = e :: τ ∧ IsUnlockRead e ∧ ¬ IsUpload e)

structure SecondRead (mt : Mt1959) (load pre : List (Event Scsi)) (e : Event Scsi) : Prop where
  ends : load = pre ++ [e]
  passed : ∃ (body : List (Event Scsi)) (o : Outcome _), pre = body ++ [⟨unlockReadOp mt, o⟩] ∧
    ∃ unlocked, unlockReply mt o = .ok unlocked
  isUnlockRead : IsUnlockRead e

/-- The event after `pre` in a course is an upload's second unlock read, and the upload counts as
a success. -/
def BestEffort (mt : Mt1959) (turns : List Turn) (pre : List (Event Scsi)) (e : Event Scsi) :
    Prop :=
  ∃ ts turn ts' body, turns = ts ++ turn :: ts' ∧
    pre = ts.flatMap Turn.trace ++ (turn.read ++ body) ∧ SecondRead mt turn.load body e ∧
    turn.loaded = .ok ()

/-- What a course keeps to: at most `n` uploads, each followed by silence and a re-confirm if the
drive restarts, and no command after a fault of the transport. -/
structure Disciplined (mt : Mt1959) (n : ℕ) (turns : List Turn) (last : List (Event Scsi))
    (r : Except Error Unit) : Prop where
  length_le : turns.length ≤ n
  loads : ∀ turn ∈ turns, ∃ t t' : Mt1959, t.target = mt.target ∧
    Run (loadFirmware.prog t) turn.load (turn.loaded, t')
  uploads : (∀ turn ∈ turns, ∀ e ∈ turn.read ++ turn.silence, ¬ IsUpload e) ∧
    ∀ e ∈ last, ¬ IsUpload e
  settles : ∀ ts turn ts', turns = ts ++ turn :: ts' → Restarts turn.loaded →
    Settled mt turn.silence ts' last
  faults : ∀ pre e post, turns.flatMap Turn.trace ++ last = pre ++ e :: post → Faulty e →
    BestEffort mt turns pre e ∨ r = .error busFault ∧ ∀ e' ∈ post, IsLocal e'

/-! ## Drivers of one profile -/

section Target

variable {mt t : Mt1959} {clock start : ℕ} {τ : List (Event Scsi)}

theorem unlockRead_of_target (h : t.target = mt.target) (o : Outcome _) :
    (⟨unlockReadOp t, o⟩ : Event Scsi) = ⟨unlockReadOp mt, o⟩ := by
  obtain ⟨profile, mode, bufferId, _, _, _⟩ := mt
  obtain ⟨rfl, h⟩ := Prod.mk.inj h
  obtain ⟨rfl, rfl⟩ := Prod.mk.inj h
  rfl

theorem unlockReply_of_target (h : t.target = mt.target) {n : ℕ} (o : Outcome n) :
    unlockReply t o = unlockReply mt o := by
  obtain ⟨profile, mode, bufferId, _, _, _⟩ := mt
  obtain ⟨rfl, h⟩ := Prod.mk.inj h
  obtain ⟨rfl, rfl⟩ := Prod.mk.inj h
  rfl

theorem Rereads.of_target (ht : t.target = mt.target) (h : Rereads t clock start τ) :
    Rereads mt clock start τ := by
  induction h with
  | passed h =>
    rw [unlockRead_of_target ht]
    exact .passed (unlockReply_of_target ht _ ▸ h)
  | failed now h hend =>
    rw [unlockRead_of_target ht]
    exact .failed now (unlockReply_of_target ht _ ▸ h) hend
  | stopped now err h hopen =>
    rw [unlockRead_of_target ht]
    exact .stopped now err (unlockReply_of_target ht _ ▸ h) hopen
  | again now h hopen _ ih =>
    rw [unlockRead_of_target ht]
    exact .again now (unlockReply_of_target ht _ ▸ h) hopen ih

theorem Reconfirms.of_target (ht : t.target = mt.target) (h : Reconfirms t clock τ) :
    Reconfirms mt clock τ := by
  obtain ⟨now, reads, poll, rfl, hreads, hpoll⟩ := h
  exact ⟨now, reads, poll, rfl, hreads.of_target ht, hpoll⟩

end Target

/-! ## Reads -/

section Reads

variable {mt mt' : Mt1959} {clock start fuel : ℕ} {τ : List (Event Scsi)}

theorem Rereads.starts (h : Rereads mt clock start τ) : ∃ e τ', τ = e :: τ' ∧ IsUnlockRead e := by
  cases h <;> exact ⟨_, _, rfl, isUnlockRead_unlockReadOp⟩

theorem run_reconfirm {r : Except Error (Except Error (List UInt8))}
    (h : Run ((Stateful.retry (reconfirmOnce clock start) fuel).prog mt) τ (r, mt')) :
    Rereads mt clock start τ := by
  induction fuel generalizing mt τ with
  | zero => exact absurd h Stateful.not_run_diverge
  | succ fuel ih =>
    rcases Stateful.run_retry_succ_iff.mp h with ⟨e, -, h₁⟩ | ⟨a, -, h₁⟩ | ⟨τ₁, t, τ₂, rfl, h₁, h₂⟩
    · obtain ⟨o, ⟨_, -, -, hr, -⟩ |
        ⟨err, now, hreply, -, ⟨-, -, hr⟩ | ⟨hopen, p, rfl, hr⟩⟩⟩ := run_reconfirmOnce h₁
      · cases hr
      · cases hr
      · rcases p with err | _
        · exact .stopped now err hreply hopen
        · cases hr
    · obtain ⟨o, ⟨_, hreply, rfl, -⟩ |
        ⟨err, now, hreply, -, ⟨hend, rfl, -⟩ | ⟨-, p, -, hr⟩⟩⟩ := run_reconfirmOnce h₁
      · exact .passed hreply
      · exact .failed now hreply hend
      · cases p <;> cases hr
    · obtain ⟨o, ⟨_, -, -, hr, -⟩ |
        ⟨err, now, hreply, rfl, ⟨-, -, hr⟩ | ⟨hopen, p, rfl, hr⟩⟩⟩ := run_reconfirmOnce h₁
      · cases hr
      · cases hr
      · rcases p with err | _
        · cases hr
        · exact .again now hreply hopen (ih h₂)

theorem run_unlockRead_some {r : Except Error (List UInt8)}
    (h : Run ((unlockRead fuel (some clock)).prog mt) τ (r, mt')) :
    ∃ (now : ℕ) (reads : List (Event Scsi)), τ = ⟨.now, now⟩ :: reads ∧
      Rereads mt clock (now - clock) reads := by
  rcases Stateful.run_bind_iff.mp h with ⟨e, -, h₁⟩ | ⟨τ₁, start, t, τ₂, rfl, h₁, h₂⟩
  · obtain ⟨_, -, he⟩ := run_elapsed_iff.mp (Stateful.run_lift_iff.mp h₁).1
    cases he
  obtain ⟨hread, rfl⟩ := Stateful.run_lift_iff.mp h₁
  obtain ⟨now, rfl, hnow⟩ := run_elapsed_iff.mp hread
  obtain rfl := Except.ok.inj hnow
  rcases Stateful.run_bind_iff.mp h₂ with ⟨e, -, h₃⟩ | ⟨τ₃, r', t', τ₄, rfl, h₃, h₄⟩
  · exact ⟨now, τ₂, rfl, run_reconfirm h₃⟩
  · obtain ⟨rfl, -⟩ := run_result_iff.mp (Stateful.run_lift_iff.mp h₄).1
    exact ⟨now, τ₃, by simp, run_reconfirm h₃⟩

theorem run_settleAfterUpload {r : Except Error Clock} (h : Run settleAfterUpload.run τ r) :
    ∃ (clock : ℕ) (p : Except ScsiError Unit),
      τ = [⟨.now, clock⟩, ⟨.pause uploadSettleMs, p⟩] ∧
      ((∃ err, p = .error err ∧ r = .error (.ofScsiError err)) ∨ p = .ok () ∧ r = .ok clock) := by
  rcases run_fallible_bind_iff.mp h with ⟨e, -, h₁⟩ | ⟨τ₁, clock, τ₂, rfl, h₁, h₂⟩
  · obtain ⟨_, -, he⟩ := run_readyClock h₁
    cases he
  obtain ⟨now, rfl, hnow⟩ := run_readyClock h₁
  obtain rfl := Except.ok.inj hnow
  rcases run_fallible_bind_iff.mp h₂ with ⟨e, rfl, h₃⟩ | ⟨τ₃, _, τ₄, rfl, h₃, h₄⟩
  · obtain ⟨p, rfl, hp⟩ := run_wait_iff.mp h₃
    rcases p with err | _
    · exact ⟨_, _, rfl, .inl ⟨err, rfl, congrArg Except.error (Except.error.inj hp)⟩⟩
    · cases hp
  · obtain ⟨p, rfl, hp⟩ := run_wait_iff.mp h₃
    obtain ⟨rfl, rfl⟩ := run_fallible_pure_iff.mp h₄
    rcases p with err | _
    · cases hp
    · exact ⟨_, _, rfl, .inr ⟨rfl, rfl⟩⟩

theorem Reconfirms.starts (h : Reconfirms mt clock τ) :
    ∃ e τ', transport τ = e :: τ' ∧ IsUnlockRead e ∧ ¬ IsUpload e := by
  obtain ⟨now, reads, poll, rfl, hreads, -⟩ := h
  obtain ⟨⟨o, r⟩, τ', rfl, he⟩ := hreads.starts
  cases o with
  | execute cdb dir data t =>
    refine ⟨_, transport (τ' ++ poll), rfl, he, fun h => ?_⟩
    exact nomatch he.2.1.symm.trans h
  | _ => exact he.elim

end Reads

/-! ## Uploads -/

section Loads

variable {mt mt' t : Mt1959} {τ τ₁ τ₂ : List (Event Scsi)} {r : Except Error Unit}

/-- How an upload ends: with the fault it met, without one, or with a fault of its second unlock
read, which it drops. -/
def LoadEnds (mt : Mt1959) (τ : List (Event Scsi)) (r : Except Error Unit) : Prop :=
  ReportsFault r ∧ EndsFatally Faulty (AllOf IsLocal) τ ∨
    ¬ ReportsFault r ∧ (∀ e ∈ τ, ¬ Faulty e) ∨
    r = .ok () ∧ ∃ pre e, SecondRead mt τ pre e ∧ (∀ e' ∈ pre, ¬ Faulty e') ∧ Faulty e

theorem SecondRead.prepend {pre : List (Event Scsi)} {e : Event Scsi} (h : SecondRead mt τ pre e)
    (ρ : List (Event Scsi)) : SecondRead mt (ρ ++ τ) (ρ ++ pre) e where
  ends := by rw [h.ends, List.append_assoc]
  passed := by
    obtain ⟨body, o, hpre, ho⟩ := h.passed
    exact ⟨ρ ++ body, o, by rw [hpre, List.append_assoc], ho⟩
  isUnlockRead := h.isUnlockRead

theorem LoadEnds.prepend (hτ₁ : ∀ e ∈ τ₁, ¬ Faulty e) (h : LoadEnds mt τ₂ r) :
    LoadEnds mt (τ₁ ++ τ₂) r := by
  rcases h with ⟨hr, hτ₂⟩ | ⟨hr, hτ₂⟩ | ⟨rfl, pre, e, hread, hpre, he⟩
  · exact .inl ⟨hr, hτ₂.prepend hτ₁⟩
  · exact .inr (.inl ⟨hr, List.forall_mem_append.mpr ⟨hτ₁, hτ₂⟩⟩)
  · exact .inr (.inr ⟨rfl, τ₁ ++ pre, e, hread.prepend τ₁,
      List.forall_mem_append.mpr ⟨hτ₁, hpre⟩, he⟩)

theorem LoadEnds.of_target (ht : t.target = mt.target) (h : LoadEnds t τ r) :
    LoadEnds mt τ r := by
  refine h.imp_right fun h => h.imp_right ?_
  rintro ⟨rfl, pre, e, hread, hpre, he⟩
  obtain ⟨body, o, hbody, unlocked, ho⟩ := hread.passed
  refine ⟨rfl, pre, e, ⟨hread.ends, ⟨body, o, ?_, unlocked, ?_⟩, hread.isUnlockRead⟩, hpre, he⟩
  · rw [hbody, unlockRead_of_target ht]
  · rw [← unlockReply_of_target ht, ho]

theorem FaultStops.loadEnds {x : Driver Unit} (hx : FaultStops x)
    (h : Run (x.prog mt) τ (r, mt')) : LoadEnds mt τ r :=
  (hx mt h).elim .inl fun h => .inr (.inl h)

theorem loadEnds_bind {α : Type} {x : Driver α} {f : α → Driver Unit} (hx : FaultStops x)
    (hkeep : Stateful.Maintains (·.target = mt.target) x)
    (hf : ∀ a t τ, Run ((f a).prog t) τ (r, mt') → LoadEnds t τ r)
    (h : Run ((x >>= f).prog mt) τ (r, mt')) : LoadEnds mt τ r := by
  rcases Stateful.run_bind_iff.mp h with ⟨e, rfl, h₁⟩ | ⟨τ₁, a, t, τ₂, rfl, h₁, h₂⟩
  · exact (hx mt h₁).elim .inl fun h => .inr (.inl h)
  · refine LoadEnds.prepend ?_ ((hf a t τ₂ h₂).of_target (hkeep rfl h₁))
    exact (hx mt h₁).elim (fun h => h.1.elim) fun h => h.2

theorem loadEnds_confirm {response : List UInt8} (h₁ : Run (doUnlock.prog mt) τ₁ (.ok response, t))
    (h₂ : Run (confirm.prog t) τ₂ (r, mt')) : LoadEnds mt (τ₁ ++ τ₂) r := by
  obtain ⟨o₁, rfl, ⟨_, -, hr, -⟩ | ⟨unlocked, hreply, -, -⟩⟩ := run_doUnlock h₁
  · cases hr
  have hclean := (faultStops_doUnlock mt h₁).elim (fun h => h.1.elim) fun h => h.2
  obtain ⟨τ₃, r', t', τ₄, rfl, h₃, h₄⟩ := Stateful.run_attempt_bind_iff.mp h₂
  obtain ⟨rfl, rfl, -⟩ := Stateful.run_pure_iff.mp h₄
  obtain ⟨o₂, rfl, -⟩ := run_doUnlock h₃
  rw [List.append_nil]
  by_cases hfault : Faulty ⟨unlockReadOp t, o₂⟩
  · exact .inr (.inr ⟨rfl, _, _, ⟨rfl, ⟨[], o₁, rfl, unlocked, hreply⟩,
      isUnlockRead_unlockReadOp⟩, hclean, hfault⟩)
  · exact .inr (.inl ⟨id, List.forall_mem_append.mpr ⟨hclean, by simpa using hfault⟩⟩)

theorem loadEnds_unlockRetries (n : ℕ) :
    ∀ mt τ, Run ((unlockRetries n).prog mt) τ (r, mt') → LoadEnds mt τ r := by
  induction n with
  | zero =>
    intro mt τ h
    refine FaultStops.loadEnds (fun mt => ?_) h
    exact Stateful.haltsOn_bind (faultStops_doUnlock mt) fun _ t => .pure id
  | succ n ih =>
    intro mt τ h
    obtain ⟨τ₁, r₁, t, τ₂, rfl, h₁, h₂⟩ := Stateful.run_attempt_bind_iff.mp h
    rcases r₁ with e | response
    · dsimp only at h₂
      split_ifs at h₂ with htransport
      · obtain ⟨rfl, rfl, -⟩ := Stateful.run_throw_iff.mp h₂
        rw [List.append_nil]
        exact (faultStops_doUnlock mt h₁).elim .inl fun h => .inr (.inl h)
      · refine LoadEnds.prepend ?_ ((ih t τ₂ h₂).of_target (maintains_doUnlock rfl h₁))
        refine (faultStops_doUnlock mt h₁).elim (fun h => ?_) fun h => h.2
        exact absurd isTransportFailure_busFault ((h.1 : e = busFault) ▸ htransport)
    · exact loadEnds_confirm h₁ h₂

theorem faultStop_upload {opcode mode : UInt8} {data : List UInt8} :
    FaultStop (upload opcode mode data) := .seq faultStop_issue fun _ => .ret ()

theorem faultStop_traceStep {cdb data : List UInt8} {dir : DataDirection} :
    FaultStop (traceStep cdb dir data) := by
  refine .askResult (fun o => ?_) nofun
  change _ ↔ FoundDead o.result
  unfold advisory FoundDead
  rcases o.result with e | res
  · refine (tolerated_iff _).trans (ofScsiError_eq_busFault_iff.trans ?_)
    simp
  · simp

/-- The end of a critical span is reported after a fault inside it. -/
theorem faultStop_critical {x : Step Unit} (hx : FaultStop x) : FaultStop (critical x) := by
  have hbegin : HaltsOn Faulty (AllOf IsLocal) FoundDead Scsi.beginCritical :=
    HaltsOn.ask (I := Scsi) (o := .beginCritical) (fun _ => Iff.rfl) nofun
  refine hbegin.bind_tail (fun r τ b hR h => ?_) fun r hR => ?_
  · rcases r with e | _
    · obtain ⟨rfl, rfl⟩ := run_pure_iff.mp h
      exact ⟨nofun, reportsFault_mapError_iff (r := (.error e : Except ScsiError Unit)) |>.mpr hR⟩
    · obtain ⟨e, he, -⟩ := hR
      cases he
  · rcases r with e | _
    · exact .pure fun h => hR
        (reportsFault_mapError_iff (r := (.error e : Except ScsiError Unit)) |>.mp h)
    · refine HaltsOn.bind_tail hx (fun r τ b hR h => ?_) fun r hR => ?_
      · obtain ⟨τ₁, _, τ₂, rfl, h₁, h₂⟩ := run_bind_iff.mp h
        obtain ⟨rfl, rfl⟩ := run_pure_iff.mp h₂
        rw [run_ask_iff.mp h₁]
        exact ⟨List.forall_mem_singleton.mpr (.inr rfl), hR⟩
      · exact .of_issues (.bind (.ask fun _ => id) fun _ => .pure _) fun τ a h => by
          obtain ⟨τ₁, _, τ₂, rfl, h₁, h₂⟩ := run_bind_iff.mp h
          obtain ⟨rfl, rfl⟩ := run_pure_iff.mp h₂
          exact hR

theorem loadEnds_loadFirmware (h : Run (loadFirmware.prog mt) τ (r, mt')) : LoadEnds mt τ r := by
  have hensure {c : Prop} [Decidable c] :
      FaultStops (Stateful.lift (ensure c .unlockFailed) : Driver Unit) :=
    faultStops_lift (.ensure nofun)
  replace h := Stateful.run_get_bind_iff.mp h
  split_ifs at h
  · replace h := Stateful.run_get_bind_iff.mp h
    refine loadEnds_bind hensure (.lift _) (fun _ t τ h => ?_) h
    refine loadEnds_bind (faultStops_lift (faultStop_critical
      (.seq faultStop_upload fun _ => faultStop_traceStep))) (.lift _) (fun _ t τ h => ?_) h
    rcases Stateful.run_bind_iff.mp h with ⟨e, rfl, h₁⟩ | ⟨τ₁, response, t₁, τ₂, rfl, h₁, h₂⟩
    · exact (faultStops_doUnlock t h₁).elim .inl fun h => .inr (.inl h)
    · exact loadEnds_confirm h₁ h₂
  · replace h := Stateful.run_get_bind_iff.mp h
    refine loadEnds_bind hensure (.lift _) (fun _ t τ h => ?_) h
    exact loadEnds_bind (faultStops_lift (faultStop_critical
      (.seq faultStop_upload fun _ => .seq faultStop_traceStep fun _ => .seq faultStop_traceStep
        fun _ => faultStop_traceStep))) (.lift _) (fun _ t τ h => loadEnds_unlockRetries 5 t τ h) h

end Loads

/-! ## Courses -/

section Courses

variable {mt : Mt1959} {n : ℕ} {turns : List Turn} {last : List (Event Scsi)} {turn : Turn}
  {r : Except Error Unit}

theorem BestEffort.cons {pre : List (Event Scsi)} {e : Event Scsi}
    (h : BestEffort mt turns pre e) (turn : Turn) :
    BestEffort mt (turn :: turns) (turn.trace ++ pre) e := by
  obtain ⟨ts, t, ts', body, rfl, rfl, hread, hok⟩ := h
  exact ⟨turn :: ts, t, ts', body, rfl, by simp, hread, hok⟩

/-- What a single turn keeps to; after a fault that is not the dropped one the course is over. -/
structure TurnDisciplined (mt : Mt1959) (turn : Turn) (turns : List Turn)
    (last : List (Event Scsi)) (r : Except Error Unit) : Prop where
  load : ∃ t t' : Mt1959, t.target = mt.target ∧
    Run (loadFirmware.prog t) turn.load (turn.loaded, t')
  uploads : ∀ e ∈ turn.read ++ turn.silence, ¬ IsUpload e
  settles : Restarts turn.loaded → Settled mt turn.silence turns last
  faults : ∀ pre e post, turn.trace = pre ++ e :: post → Faulty e →
    (∃ body, pre = turn.read ++ body ∧ SecondRead mt turn.load body e ∧ turn.loaded = .ok ()) ∨
      (turns = [] ∧ last = []) ∧ r = .error busFault ∧ ∀ e' ∈ post, IsLocal e'

theorem Disciplined.finish (huploads : ∀ e ∈ last, ¬ IsUpload e)
    (hfaults : ∀ pre e post, last = pre ++ e :: post → Faulty e →
      r = .error busFault ∧ ∀ e' ∈ post, IsLocal e') : Disciplined mt n [] last r where
  length_le := Nat.zero_le n
  loads := nofun
  uploads := ⟨nofun, huploads⟩
  settles := fun ts turn ts' h => absurd h.symm (by simp)
  faults := fun pre e post h he => .inr (hfaults pre e post h he)

theorem Disciplined.cons (hturn : TurnDisciplined mt turn turns last r)
    (h : Disciplined mt n turns last r) : Disciplined mt (n + 1) (turn :: turns) last r where
  length_le := Nat.succ_le_succ h.length_le
  loads := List.forall_mem_cons.mpr ⟨hturn.load, h.loads⟩
  uploads := ⟨List.forall_mem_cons.mpr ⟨hturn.uploads, h.uploads.1⟩, h.uploads.2⟩
  settles := by
    intro ts t ts' hsplit hrestarts
    cases ts with
    | nil =>
      obtain ⟨rfl, rfl⟩ := List.cons.inj hsplit
      exact hturn.settles hrestarts
    | cons t' ts =>
      obtain ⟨-, htail⟩ := List.cons.inj hsplit
      exact h.settles ts t ts' htail hrestarts
  faults := by
    intro pre e post hsplit he
    rw [List.flatMap_cons, List.append_assoc] at hsplit
    rcases split_append hsplit with ⟨mid, htrace, rfl⟩ | ⟨mid, rfl, hmid⟩
    · rcases hturn.faults pre e mid htrace he with ⟨body, rfl, hread, hok⟩ | ⟨⟨rfl, rfl⟩, hr, hmid⟩
      · exact .inl ⟨[], turn, turns, body, rfl, by simp, hread, hok⟩
      · exact .inr ⟨hr, by simpa using hmid⟩
    · exact (h.faults mid e post hmid he).imp_left (·.cons turn)

end Courses

/-! ## Runs -/

section Runs

variable {mt mt' t t' : Mt1959} {fuel n : ℕ} {settled : Option Clock} {τ : List (Event Scsi)}
  {r : Except Error Unit}

theorem isLocal_not_faulty {e : Event Scsi} (h : IsLocal e) : ¬ Faulty e := by
  obtain ⟨o, r⟩ := e
  rcases h with h | h <;> (cases (h : o = _); exact id)

/-- After the fault that driver steps meet nothing is sent. -/
theorem FaultStops.split {α : Type} {x : Driver α} (hx : FaultStops x) {r : Except Error α}
    (h : Run (x.prog mt) τ (r, mt')) {pre post : List (Event Scsi)} {e : Event Scsi}
    (hτ : τ = pre ++ e :: post) (he : Faulty e) : ReportsFault r ∧ ∀ e' ∈ post, IsLocal e' :=
  ⟨(hx mt).result_iff h |>.mpr ⟨e, by simp [hτ], he⟩,
    (hx mt).tail (fun _ hT e' he' => isLocal_not_faulty (hT e' he')) h hτ he⟩

theorem eq_busFault_of_reports (h : ReportsFault r) : r = .error busFault := by
  rcases r with e | _
  · exact congrArg Except.error h
  · exact h.elim

theorem not_isUpload_of_readCall {e : Event Scsi} (h : ReadCall e) : ¬ IsUpload e := by
  obtain ⟨o, r⟩ := e
  rcases h with h | h | h
  · cases o with
    | execute => exact fun hu => nomatch h.2.1.symm.trans hu
    | _ => exact h.elim
  · cases (h : o = _)
    exact id
  · cases (h : o = _)
    exact id

theorem not_isUpload_of_pollCall {e : Event Scsi} (h : PollCall e) : ¬ IsUpload e := by
  obtain ⟨o, r⟩ := e
  rcases h with h | h | h | h <;> (cases (h : o = _); first | exact id | exact nofun)

theorem isRestartSense_of_isTransportFailure {e : Error} (h : e.isTransportFailure = true) :
    isRestartSense e = false := by
  rcases e with _ | _ | _ | ⟨opcode, status, _ | sense⟩ <;> first | rfl | cases h

theorem issues_pollAfterRead : Issues PollCall ((unlockConfirmed fuel settled).prog mt) := by
  cases settled with
  | none => exact .pure _
  | some clock =>
    exact Stateful.issues_bind (.map issues_awaitMediaReady) fun _ _ => .pure _

theorem faultStops_unlockConfirmed : FaultStops (unlockConfirmed fuel settled) := by
  cases settled with
  | none => exact faultStops_ret ()
  | some clock =>
    exact fun mt => Stateful.haltsOn_bind (faultStops_lift faultStop_awaitMediaReady mt)
      fun _ t => faultStops_ret () t

theorem reconfirms_of_run {clock : Clock} {τ₁ τ₂ : List (Event Scsi)}
    {r₁ : Except Error (List UInt8)} (hsettled : settled = some clock)
    (h : Run ((unlockRead fuel settled).prog t) τ₁ (r₁, t')) (hpoll : ∀ e ∈ τ₂, PollCall e) :
    Reconfirms t clock (τ₁ ++ τ₂) := by
  subst hsettled
  obtain ⟨now, reads, rfl, hreads⟩ := run_unlockRead_some h
  exact ⟨now, reads, τ₂, rfl, hreads, hpoll⟩

/-- An attempt is the end of a course, or its read failed and left the rest to `lost`. -/
theorem run_unlockAttempt {lost : Error → Driver Unit}
    (h : Run ((unlockAttempt fuel settled lost).prog t) τ (r, mt')) :
    ((∀ e ∈ τ, ReadCall e ∨ PollCall e) ∧ Disciplined mt n [] τ r ∧
      ∀ clock, settled = some clock → Reconfirms t clock τ) ∨
    ∃ τ₁ e t' τ₂, τ = τ₁ ++ τ₂ ∧ Run ((unlockRead fuel settled).prog t) τ₁ (.error e, t') ∧
      e ≠ busFault ∧ Run ((lost e).prog t') τ₂ (r, mt') := by
  obtain ⟨τ₁, r₁, t', τ₂, rfl, h₁, h₂⟩ := Stateful.run_attempt_bind_iff.mp h
  have hreads (e : Event Scsi) (he : e ∈ τ₁) : ¬ IsUpload e :=
    not_isUpload_of_readCall (issues_unlockRead h₁ e he)
  have hcalls (e : Event Scsi) (he : e ∈ τ₁) : ReadCall e ∨ PollCall e :=
    .inl (issues_unlockRead h₁ e he)
  rcases r₁ with e | response
  · dsimp only at h₂
    have hstop {e' : Error} (hr : r = .error e') (he' : e' = busFault ↔ e = busFault) :
        Disciplined mt n [] τ₁ r ∧ ∀ clock, settled = some clock → Reconfirms t clock τ₁ := by
      refine ⟨.finish hreads fun pre ev post hsplit hev => ?_, fun clock hs => ?_⟩
      · obtain ⟨hfault, hpost⟩ := faultStops_unlockRead.split h₁ hsplit hev
        exact ⟨hr.trans (congrArg Except.error (he'.mpr hfault)), hpost⟩
      · have hrec : Reconfirms t clock (τ₁ ++ []) := reconfirms_of_run hs h₁ nofun
        rwa [List.append_nil] at hrec
    split_ifs at h₂ with hsignature htransport
    · obtain ⟨rfl, rfl, -⟩ := Stateful.run_throw_iff.mp h₂
      rw [List.append_nil]
      refine .inl ⟨hcalls, hstop rfl (iff_of_false nofun ?_)⟩
      rintro rfl
      cases hsignature
    · obtain ⟨rfl, rfl, -⟩ := Stateful.run_throw_iff.mp h₂
      rw [List.append_nil]
      exact .inl ⟨hcalls, hstop rfl Iff.rfl⟩
    · refine .inr ⟨τ₁, e, t', τ₂, rfl, h₁, ?_, h₂⟩
      rintro rfl
      exact htransport isTransportFailure_busFault
  · have hpoll := issues_pollAfterRead h₂
    refine .inl ⟨List.forall_mem_append.mpr ⟨hcalls, fun e he => .inr (hpoll e he)⟩,
      .finish (List.forall_mem_append.mpr ⟨hreads, fun e he => ?_⟩) ?_,
      fun clock hs => reconfirms_of_run hs h₁ hpoll⟩
    · exact not_isUpload_of_pollCall (hpoll e he)
    · intro pre e post hsplit he
      rcases split_append hsplit with ⟨mid, hmid, -⟩ | ⟨mid, -, hmid⟩
      · exact (faultStops_unlockRead.split h₁ hmid he).1.elim
      · obtain ⟨hr, hpost⟩ := faultStops_unlockConfirmed.split h₂ hmid he
        exact ⟨eq_busFault_of_reports hr, hpost⟩

/-- An upload, and by how it ended: nothing more, the silence and what comes after it, or the next
attempt at once. -/
theorem run_reload {next : Option Clock → Error → Driver Unit} {lastErr : Error}
    (h : Run ((reload next lastErr).prog mt) τ (r, mt')) :
    ∃ load loaded t rest, τ = load ++ rest ∧ Run (loadFirmware.prog mt) load (loaded, t) ∧
      ((¬ Restarts loaded ∧ r = loaded ∧ rest = []) ∨
      (Restarts loaded ∧ ¬ ReportsFault loaded ∧
        ∃ (clock : ℕ) (p : Except ScsiError Unit) (ρ : List (Event Scsi)),
          rest = ⟨.now, clock⟩ :: ⟨.pause uploadSettleMs, p⟩ :: ρ ∧
        ((∃ err, p = .error err ∧ ρ = [] ∧ r = .error (.ofScsiError err)) ∨
          p = .ok () ∧ ∃ e, Run ((next (some clock) e).prog t) ρ (r, mt'))) ∨
      (¬ Restarts loaded ∧ ¬ ReportsFault loaded ∧
        ∃ e, Run ((next none e).prog t) rest (r, mt'))) := by
  obtain ⟨load, loaded, t, rest, rfl, h₁, h₂⟩ := Stateful.run_attempt_bind_iff.mp h
  refine ⟨load, loaded, t, rest, rfl, h₁, ?_⟩
  have hsettle (h₂ : Run (Stateful.prog (do
      let clock ← Stateful.lift settleAfterUpload
      next (some clock) lastErr) t) rest (r, mt')) :
      ∃ (clock : ℕ) (p : Except ScsiError Unit) (ρ : List (Event Scsi)),
        rest = ⟨.now, clock⟩ :: ⟨.pause uploadSettleMs, p⟩ :: ρ ∧
        ((∃ err, p = .error err ∧ ρ = [] ∧ r = .error (.ofScsiError err)) ∨
          p = .ok () ∧ ∃ e, Run ((next (some clock) e).prog t) ρ (r, mt')) := by
    rcases Stateful.run_bind_iff.mp h₂ with ⟨e, rfl, h₃⟩ | ⟨τ₃, clock, t', ρ, rfl, h₃, h₄⟩
    · obtain ⟨clock, p, rfl, ⟨err, rfl, he⟩ | ⟨-, he⟩⟩ :=
        run_settleAfterUpload (Stateful.run_lift_iff.mp h₃).1
      · exact ⟨clock, _, [], rfl, .inl ⟨err, rfl, rfl, congrArg _ (Except.error.inj he)⟩⟩
      · cases he
    · obtain ⟨hs, rfl⟩ := Stateful.run_lift_iff.mp h₃
      obtain ⟨clock', p, rfl, ⟨err, -, he⟩ | ⟨rfl, he⟩⟩ := run_settleAfterUpload hs
      · cases he
      · obtain rfl := Except.ok.inj he
        exact ⟨_, _, ρ, rfl, .inr ⟨rfl, lastErr, h₄⟩⟩
  rcases loaded with e | _
  · dsimp only at h₂
    split_ifs at h₂ with htransport hrestart
    · obtain ⟨rfl, rfl, -⟩ := Stateful.run_throw_iff.mp h₂
      refine .inl ⟨fun hr => ?_, rfl, rfl⟩
      exact absurd hr (by simp [Restarts, isRestartSense_of_isTransportFailure htransport])
    · refine .inr (.inl ⟨hrestart, ?_, hsettle h₂⟩)
      rintro rfl
      exact htransport isTransportFailure_busFault
    · refine .inr (.inr ⟨hrestart, ?_, e, h₂⟩)
      rintro rfl
      exact htransport isTransportFailure_busFault
  · exact .inr (.inl ⟨trivial, id, hsettle h₂⟩)

theorem turn_faults {turn : Turn} {turns : List Turn} {last : List (Event Scsi)}
    (hread : ∀ e ∈ turn.read, ¬ Faulty e) (hload : LoadEnds mt turn.load turn.loaded)
    (hover : ReportsFault turn.loaded →
      turn.silence = [] ∧ (turns = [] ∧ last = []) ∧ r = .error busFault)
    (hsilence : ∀ pre e post, turn.silence = pre ++ e :: post → Faulty e →
      (turns = [] ∧ last = []) ∧ r = .error busFault ∧ ∀ e' ∈ post, IsLocal e')
    (pre : List (Event Scsi)) (e : Event Scsi) (post : List (Event Scsi))
    (hsplit : turn.trace = pre ++ e :: post) (he : Faulty e) :
    (∃ body, pre = turn.read ++ body ∧ SecondRead mt turn.load body e ∧ turn.loaded = .ok ()) ∨
      (turns = [] ∧ last = []) ∧ r = .error busFault ∧ ∀ e' ∈ post, IsLocal e' := by
  rw [Turn.trace, List.append_assoc] at hsplit
  rcases split_append hsplit with ⟨mid, hmid, -⟩ | ⟨mid, rfl, hmid⟩
  · exact absurd he (hread e (by simp [hmid]))
  rcases split_append hmid with ⟨mid', hmid', rfl⟩ | ⟨mid', rfl, hmid'⟩
  · rcases hload with ⟨hr, hends⟩ | ⟨-, hclean⟩ | ⟨hok, body, e', hsecond, hbody, -⟩
    · obtain ⟨hsil, hlast, hfault⟩ := hover hr
      have hlocal : ∀ e' ∈ mid', IsLocal e' :=
        hends.tail_of_split (fun _ hT e' he' => isLocal_not_faulty (hT e' he')) hmid' he
      exact .inr ⟨hlast, hfault, by simpa [hsil] using hlocal⟩
    · exact absurd he (hclean e (by simp [hmid']))
    · rcases split_cases (hsecond.ends.symm.trans hmid') with
        ⟨rfl, rfl, rfl⟩ | ⟨_, hmem, -⟩ | ⟨_, -, hnil⟩
      · exact .inl ⟨body, rfl, hsecond, hok⟩
      · exact absurd he (hbody e (by simp [hmem]))
      · simp at hnil
  · exact .inr (hsilence mid' e post hmid' he)

theorem pause_of_split {clock : ℕ} {p : Except ScsiError Unit} {pre post : List (Event Scsi)}
    {e : Event Scsi}
    (h : [(⟨.now, clock⟩ : Event Scsi), ⟨.pause uploadSettleMs, p⟩] = pre ++ e :: post)
    (he : Faulty e) : e = ⟨.pause uploadSettleMs, p⟩ ∧ post = [] := by
  have hsplit :
      [(⟨.now, clock⟩ : Event Scsi)] ++ [⟨.pause uploadSettleMs, p⟩] = pre ++ e :: post := h
  rcases split_append hsplit with ⟨mid, hmid, -⟩ | ⟨mid, -, hmid⟩
  · have hmem : e ∈ [(⟨.now, clock⟩ : Event Scsi)] := by rw [hmid]; simp
    rw [List.mem_singleton.mp hmem] at he
    exact he.elim
  · cases mid with
    | nil => exact ⟨(List.cons.inj hmid).1.symm, (List.cons.inj hmid).2.symm⟩
    | cons _ mid => simp at hmid

/-- An attempt and everything after it is a course of at most as many turns as uploads are left. -/
theorem disciplined_of_run (n : ℕ) : ∀ (settled : Option Clock) (lastErr : Error) (t : Mt1959)
    (τ : List (Event Scsi)), t.target = mt.target →
    Run ((initAttempts fuel n settled lastErr).prog t) τ (r, mt') →
    ∃ turns last, τ = turns.flatMap Turn.trace ++ last ∧ Disciplined mt n turns last r ∧
      ∀ clock, settled = some clock → Reconfirms mt clock (following turns last) := by
  induction n with
  | zero =>
    intro settled lastErr t τ ht h
    cases settled with
    | none =>
      obtain ⟨rfl, -, -⟩ := Stateful.run_throw_iff.mp h
      exact ⟨[], [], rfl, .finish nofun fun pre e post hsplit => by simp at hsplit, nofun⟩
    | some clock =>
      rcases run_unlockAttempt h with ⟨-, hend, hrec⟩ | ⟨τ₁, e, t', τ₂, rfl, h₁, hne, h₂⟩
      · exact ⟨[], τ, rfl, hend, fun c hc => (hrec c hc).of_target ht⟩
      · obtain ⟨rfl, rfl, -⟩ := Stateful.run_throw_iff.mp h₂
        rw [List.append_nil]
        refine ⟨[], τ₁, rfl, .finish (fun e he => ?_) fun pre e post hsplit he => ?_,
          fun c hc => ?_⟩
        · exact not_isUpload_of_readCall (issues_unlockRead h₁ e he)
        · exact absurd (faultStops_unlockRead.split h₁ hsplit he).1 hne
        · have hrec : Reconfirms t c (τ₁ ++ []) := reconfirms_of_run hc h₁ nofun
          rw [List.append_nil] at hrec
          exact hrec.of_target ht
  | succ n ih =>
    intro settled lastErr t τ ht h
    rcases run_unlockAttempt h with ⟨-, hend, hrec⟩ | ⟨read, e, t₁, τ', rfl, h₁, hne, h₂⟩
    · exact ⟨[], τ, rfl, hend, fun c hc => (hrec c hc).of_target ht⟩
    obtain ⟨load, loaded, t₂, rest, rfl, h₃, h₄⟩ := run_reload h₂
    have ht₁ : t₁.target = mt.target := (maintains_unlockRead rfl h₁).trans ht
    have ht₂ : t₂.target = mt.target := (maintains_loadFirmware rfl h₃).trans ht₁
    have hread (e : Event Scsi) (he : e ∈ read) : ¬ IsUpload e :=
      not_isUpload_of_readCall (issues_unlockRead h₁ e he)
    have hclean : ∀ e ∈ read, ¬ Faulty e :=
      (faultStops_unlockRead t h₁).elim (fun h => absurd h.1 hne) fun h => h.2
    have hload : LoadEnds mt load loaded := (loadEnds_loadFirmware h₃).of_target ht₁
    have hstart (turns last) (silence) (clock : Clock) (hs : settled = some clock) :
        Reconfirms mt clock (following (⟨read, load, loaded, silence⟩ :: turns) last) := by
      have hrec : Reconfirms t clock (read ++ []) := reconfirms_of_run hs h₁ nofun
      rw [List.append_nil] at hrec
      exact hrec.of_target ht
    have hnil {e : Event Scsi} {pre post} (h : ([] : List (Event Scsi)) = pre ++ e :: post) :
        False := by simp at h
    have hpaused {clock : ℕ} {p : Except ScsiError Unit} (e : Event Scsi)
        (he : e ∈ read ++ [⟨.now, clock⟩, ⟨.pause uploadSettleMs, p⟩]) : ¬ IsUpload e := by
      simp only [List.mem_append, List.mem_cons, List.not_mem_nil, or_false] at he
      rcases he with he | rfl | rfl
      · exact hread e he
      · exact id
      · exact id
    rcases h₄ with ⟨hfatal, rfl, rfl⟩ | ⟨-, hnf, clock, p, ρ, rfl, ⟨err, rfl, rfl, rfl⟩ |
      ⟨rfl, e', h₅⟩⟩ | ⟨hnr, hnf, e', h₅⟩
    · -- the upload met a fault
      refine ⟨[⟨read, load, r, []⟩], [], by simp [Turn.trace], .cons (n := n)
        ⟨⟨t₁, t₂, ht₁, h₃⟩, by simpa using hread, fun h => absurd h hfatal, ?_⟩
        (.finish nofun fun pre e post h => (hnil h).elim), hstart _ _ _⟩
      exact turn_faults hclean hload
        (fun h => ⟨rfl, ⟨rfl, rfl⟩, eq_busFault_of_reports h⟩) fun pre e post h => (hnil h).elim
    · -- the silence was refused
      refine ⟨[⟨read, load, loaded, [⟨.now, clock⟩, ⟨.pause uploadSettleMs, .error err⟩]⟩], [],
        by simp [Turn.trace], .cons (n := n) ⟨⟨t₁, t₂, ht₁, h₃⟩, hpaused,
          fun _ => ⟨clock, .error err, rfl, fun _ => ⟨rfl, rfl⟩, nofun⟩, ?_⟩
        (.finish nofun fun pre e post h => (hnil h).elim), hstart _ _ _⟩
      refine turn_faults hclean hload (fun h => absurd h hnf) fun pre e post hsplit he => ?_
      obtain ⟨rfl, rfl⟩ := pause_of_split hsplit he
      exact ⟨⟨rfl, rfl⟩, congrArg _ (reportsFault_mapError_iff.mpr he), nofun⟩
    · obtain ⟨turns, last, rfl, hrest, hrec⟩ := ih (some clock) e' t₂ ρ ht₂ h₅
      have hsettled := hrec clock rfl
      refine ⟨⟨read, load, loaded, [⟨.now, clock⟩, ⟨.pause uploadSettleMs, .ok ()⟩]⟩ :: turns, last,
        by simp [Turn.trace], .cons ⟨⟨t₁, t₂, ht₁, h₃⟩, hpaused,
          fun _ => ⟨clock, .ok (), rfl, nofun, fun _ => ⟨hsettled, hsettled.starts⟩⟩, ?_⟩ hrest,
        hstart _ _ _⟩
      refine turn_faults hclean hload (fun h => absurd h hnf) fun pre e post hsplit he => ?_
      obtain ⟨rfl, rfl⟩ := pause_of_split hsplit he
      obtain ⟨err, herr, -⟩ := he
      cases herr
    · -- an upload that was not even begun, or that the drive rejected
      obtain ⟨turns, last, rfl, hrest, -⟩ := ih none e' t₂ rest ht₂ h₅
      refine ⟨⟨read, load, loaded, []⟩ :: turns, last, by simp [Turn.trace],
        .cons ⟨⟨t₁, t₂, ht₁, h₃⟩, by simpa using hread, fun h => absurd h hnr, ?_⟩ hrest,
        hstart _ _ _⟩
      exact turn_faults hclean hload (fun h => absurd h hnf) fun pre e post h => (hnil h).elim

end Runs

/-! ## The initialization -/

/-- Against a clock that goes forward and waits that take their time the initialization ends, and
each of its runs keeps to the discipline. -/
theorem runInit_disciplined {σ : Type} (h : Handler Scsi σ) (time : σ → ℕ)
    (hk : timed.KeptBy h time) (mt : Mt1959) :
    (Settles h fun fuel => (runInit fuel).prog mt) ∧
      ∀ fuel τ r mt', Run ((runInit fuel).prog mt) τ (r, mt') →
        ∃ turns last, τ = turns.flatMap Turn.trace ++ last ∧
          Disciplined mt unlockAttempts turns last r := by
  refine ⟨settles_runInit hk mt, fun fuel τ r mt' hrun => ?_⟩
  obtain ⟨turns, last, rfl, hd, -⟩ := disciplined_of_run unlockAttempts _ _ mt _ rfl hrun
  exact ⟨turns, last, rfl, hd⟩

/-- A drive that needs one upload, and a host whose waits take their time. -/
def clockedDrive : Handler Scsi (Bool × ℕ)
  | .pause ms, (loaded, t) => (.ok (), loaded, t + nanos ms)
  | .now, (loaded, t) => (t, loaded, t)
  | o, (loaded, t) => ((uploadedDrive o loaded).1, (uploadedDrive o loaded).2, t)

theorem keptBy_clockedDrive : timed.KeptBy clockedDrive Prod.snd := by
  rintro o ⟨loaded, t⟩
  cases o with
  | pause ms => exact ⟨Nat.le_add_right t _, fun _ => le_rfl⟩
  | now => exact ⟨le_rfl, le_rfl, le_rfl⟩
  | _ => exact ⟨le_rfl, trivial⟩

def sampleDriver : Mt1959 := ⟨sampleProfile, modeA, bufferIdA, false, false, false⟩

theorem runInit_disciplined_clocked :
    (Settles clockedDrive fun fuel => (runInit fuel).prog sampleDriver) ∧
      ∃ turns last r mt', Run ((runInit 1).prog sampleDriver)
        (turns.flatMap Turn.trace ++ last) (r, mt') ∧ mt'.unlocked = true ∧
        Disciplined sampleDriver unlockAttempts turns last r := by
  have hd := runInit_disciplined clockedDrive Prod.snd keptBy_clockedDrive sampleDriver
  refine ⟨hd.1, ?_⟩
  have hex : (exec clockedDrive ((runInit 1).prog sampleDriver) (false, 0)).any
      (fun x => x.1.2.unlocked) = true := by decide +kernel
  obtain ⟨⟨r, mt'⟩, τ, _, hrun, hunlocked⟩ := exists_run_of_any hex
  obtain ⟨turns, last, rfl, hcourse⟩ := hd.2 1 τ r mt' hrun
  exact ⟨turns, last, r, mt', hrun, hunlocked, hcourse⟩

end FreemkvUnlock.Ld
