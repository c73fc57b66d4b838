import Mathlib.Data.List.TakeWhile
import FreemkvUnlock.Interaction.Iteration
import FreemkvUnlock.Ld.Calls

/-! # The readiness rule

What the readiness poll decides, told from the answers so far and the times of their readings
alone: which answer ends it, which is waited out, where the one START STOP UNIT goes. The flags,
the counter and the deadline that the poll carries along stand for that history.
-/

namespace FreemkvUnlock.Ld

open Interaction Fallible

/-! ## Calls and their outcomes -/

section Outcomes

def polled (o : Outcome 0) : Event Scsi :=
  ⟨.execute [scsiTestUnitReady, 0, 0, 0, 0, 0] .none [] turTimeoutMs, o⟩

def started (o : Outcome 0) : Event Scsi :=
  ⟨.execute startUnitCdb .none [] startUnitTimeoutMs, o⟩

def clockRead (t : ℕ) : Event Scsi := ⟨.now, t⟩

def waited (r : Except ScsiError Unit) : Event Scsi := ⟨.pause readyPollMs, r⟩

variable (o : Outcome 0)

def Ready : Prop := ∃ r, o.result = .ok r ∧ r.status = 0

/-- The drive answers with a sense, under a status that is not GOOD or in an error. -/
def Unready (answer : ScsiSense) : Prop :=
  (∃ r, o.result = .ok r ∧ r.status ≠ 0 ∧ answer = .fromBuf r.sense) ∨
    ∃ e sense, o.result = .error e ∧ e.sense = some sense ∧ answer = .fromBuf sense

def Senseless (e : ScsiError) : Prop := o.result = .error e ∧ e.sense = none

end Outcomes

/-! ## The rule -/

structure Pending where
  answer : ScsiSense
  time : ℕ

def answers (past : List Pending) : List ScsiSense := past.map Pending.answer

def NotPresent (answer : ScsiSense) : Prop := answer.senseKey = 0x02 ∧ answer.asc = 0x3A

instance : DecidablePred NotPresent := fun _ => inferInstanceAs (Decidable (_ ∧ _))

/-- The last answers say that the drive is empty, as many as it takes. -/
def EmptyRun (answers : List ScsiSense) : Prop :=
  ∃ before run, answers = before ++ run ∧ run.length = readyMaxEmptyPolls ∧ ∀ a ∈ run, NotPresent a

section Rule

variable (past : List Pending) (answer : ScsiSense)

inductive AtOnce : MediaReady → Prop
  | noMedium : EmptyRun (answers past ++ [answer]) → ⟨0x02, 0x04, 0x01⟩ ∉ answers past →
      AtOnce .noMedium
  | incompatible : answer.senseKey = 0x02 → answer.asc = 0x30 →
      AtOnce (.incompatible 0x30 answer.ascq)
  | driveError : 0x03 ≤ answer.senseKey → answer.senseKey ≤ 0x05 →
      AtOnce (.driveError answer.senseKey answer.asc answer.ascq)

def LastNew (t : ℕ) : Prop :=
  ∃ before p after, past = before ++ p :: after ∧ p.answer ∉ answers before ∧
    (∀ q ∈ after, q.answer ∈ answers (before ++ [p])) ∧ t = p.time

/-- A known answer, the window closed since the last new one. -/
def Stalled (now : ℕ) : Prop :=
  answer ∈ answers past ∧ ∃ last, LastNew past last ∧ readyStall ≤ now - last

/-- The first answer that asks for the initializing command. -/
def Starts : Prop := answer = ⟨0x02, 0x04, 0x02⟩ ∧ answer ∉ answers past

inductive Start : List (Event Scsi) → Prop
  | sent {t : ℕ} {o : Outcome 0} : Starts past answer → (∀ e, ¬ Senseless o e) →
      Start [clockRead t, started o]
  | none : ¬ Starts past answer → Start []

end Rule

inductive Passes (clock : Clock) (past : List Pending) : Pending → List (Event Scsi) → Prop
  | mk {o : Outcome 0} {answer : ScsiSense} {τ : List (Event Scsi)} {t : ℕ} :
      Unready o answer → (∀ m, ¬ AtOnce past answer m) → Start past answer τ →
      ¬ Stalled past answer (t - clock) →
      Passes clock past ⟨answer, t - clock⟩
        (polled o :: (τ ++ [clockRead t, waited (.ok ())]))

inductive Waits (clock : Clock) : List Pending → List (Event Scsi) → Prop
  | nil : Waits clock [] []
  | snoc {past : List Pending} {p : Pending} {τ₁ τ₂ : List (Event Scsi)} :
      Waits clock past τ₁ → Passes clock past p τ₂ → Waits clock (past ++ [p]) (τ₁ ++ τ₂)

inductive Ends (clock : Clock) (past : List Pending) :
    List (Event Scsi) → Except Error MediaReady → Prop
  | ready {o : Outcome 0} : Ready o → Ends clock past [polled o] (.ok .ready)
  | atOnce {o : Outcome 0} {answer : ScsiSense} {m : MediaReady} :
      Unready o answer → AtOnce past answer m → Ends clock past [polled o] (.ok m)
  | stalled {o : Outcome 0} {answer : ScsiSense} {t : ℕ} :
      Unready o answer → (∀ m, ¬ AtOnce past answer m) → Stalled past answer (t - clock) →
      Ends clock past [polled o, clockRead t]
        (.ok (.stalled answer.senseKey answer.asc answer.ascq))
  | deadPoll {o : Outcome 0} {e : ScsiError} :
      Senseless o e → Ends clock past [polled o] (.error (.ofScsiError e))
  | deadStart {o o' : Outcome 0} {answer : ScsiSense} {t : ℕ} {e : ScsiError} :
      Unready o answer → (∀ m, ¬ AtOnce past answer m) → Starts past answer → Senseless o' e →
      Ends clock past [polled o, clockRead t, started o'] (.error (.ofScsiError e))
  | stopped {o : Outcome 0} {answer : ScsiSense} {τ : List (Event Scsi)} {t : ℕ}
      {e : ScsiError} :
      Unready o answer → (∀ m, ¬ AtOnce past answer m) → Start past answer τ →
      ¬ Stalled past answer (t - clock) →
      Ends clock past (polled o :: (τ ++ [clockRead t, waited (.error e)]))
        (.error (.ofScsiError e))

/-! ## What the poll carries along -/

def emptyTail (answers : List ScsiSense) : ℕ := (answers.reverse.takeWhile (NotPresent ·)).length

structure Represents (poll : Poll) (past : List Pending) : Prop where
  seen : ∀ a, a ∈ poll.seen ↔ a ∈ answers past
  lastProgress : past ≠ [] → LastNew past poll.lastProgress
  startSent : poll.startSent = true ↔ ⟨0x02, 0x04, 0x02⟩ ∈ answers past
  emptyRun : poll.emptyRun = emptyTail (answers past)
  becomingReadySeen : poll.becomingReadySeen = true ↔ ⟨0x02, 0x04, 0x01⟩ ∈ answers past

section History

variable {past : List Pending} {poll poll' : Poll} {answer : ScsiSense} {p : Pending}
  {as : List ScsiSense} {t t' : ℕ}

theorem answers_append (past past' : List Pending) :
    answers (past ++ past') = answers past ++ answers past' := List.map_append

theorem answers_snoc : answers (past ++ [p]) = answers past ++ [p.answer] := answers_append _ _

theorem mem_answers_snoc {a : ScsiSense} :
    a ∈ answers (past ++ [p]) ↔ a ∈ answers past ∨ a = p.answer := by
  rw [answers_snoc, List.mem_append, List.mem_singleton]

theorem emptyTail_snoc : emptyTail (as ++ [answer]) =
    if NotPresent answer then emptyTail as + 1 else 0 := by
  unfold emptyTail
  rw [List.reverse_append, List.reverse_singleton, List.singleton_append, List.takeWhile_cons]
  split_ifs with h <;> simp_all

theorem emptyRun_iff : EmptyRun as ↔ readyMaxEmptyPolls ≤ emptyTail as := by
  constructor
  · rintro ⟨before, run, rfl, hlen, hrun⟩
    unfold emptyTail
    rw [List.reverse_append, List.takeWhile_append_of_pos (by simpa using hrun),
      List.length_append, List.length_reverse]
    omega
  · intro h
    have hsplit := as.reverse.takeWhile_append_dropWhile (p := (NotPresent ·))
    refine ⟨(as.reverse.drop readyMaxEmptyPolls).reverse,
      (as.reverse.take readyMaxEmptyPolls).reverse, ?_, ?_, fun a ha => ?_⟩
    · rw [← List.reverse_append, List.take_append_drop, List.reverse_reverse]
    · have := (as.reverse.takeWhile_prefix (NotPresent ·)).length_le
      unfold emptyTail at h
      rw [List.length_reverse, List.length_take]
      omega
    · rw [List.mem_reverse, ← hsplit, List.take_append_of_le_length h] at ha
      simpa using List.mem_takeWhile_imp (List.mem_of_mem_take ha)

theorem not_new_after {b m a a' : List Pending} {p p' : Pending}
    (hold : ∀ q ∈ a, q.answer ∈ answers (b ++ [p])) (ha : a = m ++ p' :: a') :
    p'.answer ∈ answers (b ++ p :: m) := by
  have h := hold p' (by simp [ha])
  rw [← List.singleton_append, ← List.append_assoc, answers_append]
  exact List.mem_append_left _ h

theorem LastNew.unique (h : LastNew past t) (h' : LastNew past t') : t = t' := by
  obtain ⟨b, p, a, rfl, hnew, hold, rfl⟩ := h
  obtain ⟨b', p', a', heq, hnew', hold', rfl⟩ := h'
  rcases List.append_eq_append_iff.mp heq with ⟨_ | ⟨x, m⟩, rfl, hm⟩ | ⟨_ | ⟨x, m⟩, rfl, hm⟩
  · exact congrArg Pending.time (List.cons.inj hm).1
  · obtain ⟨rfl, ha⟩ := List.cons.inj hm
    exact absurd (not_new_after hold ha) hnew'
  · exact congrArg Pending.time (List.cons.inj hm).1.symm
  · obtain ⟨rfl, ha⟩ := List.cons.inj hm
    exact absurd (not_new_after hold' ha) hnew

theorem LastNew.snoc_new (h : p.answer ∉ answers past) : LastNew (past ++ [p]) p.time :=
  ⟨past, p, [], rfl, h, nofun, rfl⟩

theorem LastNew.snoc_old (hl : LastNew past t) (h : p.answer ∈ answers past) :
    LastNew (past ++ [p]) t := by
  obtain ⟨b, q, a, rfl, hnew, hold, rfl⟩ := hl
  refine ⟨b, q, a ++ [p], by simp, hnew, fun q' hq' => ?_, rfl⟩
  rcases List.mem_append.mp hq' with hq' | hq'
  · exact hold q' hq'
  · obtain rfl := List.mem_singleton.mp hq'
    rw [← List.singleton_append, ← List.append_assoc, answers_append] at h
    rcases List.mem_append.mp h with h | h
    · exact h
    · obtain ⟨q'', hq'', heq⟩ := List.mem_map.mp h
      rw [← heq]
      exact hold q'' hq''

theorem represents_start (t : ℕ) : Represents ⟨[], t, false, 0, false⟩ [] :=
  ⟨fun _ => Iff.rfl, fun h => absurd rfl h, by simp [answers], rfl, by simp [answers]⟩

/-! ## One answer -/

theorem note_emptyRun (h : Represents poll past) (answer : ScsiSense) :
    (poll.note answer).emptyRun = emptyTail (answers past ++ [answer]) := by
  rw [emptyTail_snoc, ← h.emptyRun]
  rfl

theorem note_becomingReadySeen (h : Represents poll past) (answer : ScsiSense) :
    (poll.note answer).becomingReadySeen = true ↔
      ⟨0x02, 0x04, 0x01⟩ ∈ answers past ∨ answer = ⟨0x02, 0x04, 0x01⟩ := by
  rw [← h.becomingReadySeen]
  change (_ || _) = true ↔ _
  rw [Bool.or_eq_true, beq_iff_eq]

theorem EmptyRun.last (h : EmptyRun (as ++ [answer])) : NotPresent answer := by
  rw [emptyRun_iff, emptyTail_snoc] at h
  split_ifs at h with he
  · exact he
  · exact absurd h (by decide)

/-- The counter and the flags decide as the history does. -/
theorem outcome_eq_some_iff (h : Represents poll past) {m : MediaReady} :
    (poll.note answer).outcome answer = some m ↔ AtOnce past answer m := by
  have hempty : (¬ (poll.note answer).becomingReadySeen = true ∧
      readyMaxEmptyPolls ≤ (poll.note answer).emptyRun) ↔
      EmptyRun (answers past ++ [answer]) ∧ ⟨0x02, 0x04, 0x01⟩ ∉ answers past := by
    rw [note_becomingReadySeen h, note_emptyRun h, ← emptyRun_iff, and_comm]
    refine and_congr_right fun hrun => not_congr (or_iff_left ?_)
    rintro rfl
    exact absurd hrun.last (by decide)
  unfold Poll.outcome
  by_cases hnone : ¬ (poll.note answer).becomingReadySeen = true ∧
      readyMaxEmptyPolls ≤ (poll.note answer).emptyRun
  · obtain ⟨hrun, hseen⟩ := hempty.mp hnone
    obtain ⟨hkey, hasc⟩ := hrun.last
    rw [if_pos hnone, Option.some.injEq]
    constructor
    · rintro rfl
      exact .noMedium hrun hseen
    · rintro (_ | ⟨-, hasc'⟩ | ⟨hlo, hhi⟩)
      · rfl
      · exact absurd (hasc.symm.trans hasc') (by decide)
      · rw [hkey] at hlo
        exact absurd hlo (by decide)
  · rw [if_neg hnone]
    split_ifs with h30 herror
    · rw [Option.some.injEq]
      constructor
      · rintro rfl
        exact .incompatible h30.1 h30.2
      · rintro (⟨hrun, hseen⟩ | _ | ⟨hlo, hhi⟩)
        · exact absurd (hempty.mpr ⟨hrun, hseen⟩) hnone
        · rfl
        · rw [h30.1] at hlo
          exact absurd hlo (by decide)
    · rw [Option.some.injEq]
      constructor
      · rintro rfl
        exact .driveError herror.1 herror.2
      · rintro (⟨hrun, hseen⟩ | ⟨hkey, hasc⟩ | _)
        · exact absurd (hempty.mpr ⟨hrun, hseen⟩) hnone
        · exact absurd ⟨hkey, hasc⟩ h30
        · rfl
    · refine iff_of_false (by simp) ?_
      rintro (⟨hrun, hseen⟩ | ⟨hkey, hasc⟩ | ⟨hlo, hhi⟩)
      · exact hnone (hempty.mpr ⟨hrun, hseen⟩)
      · exact h30 ⟨hkey, hasc⟩
      · exact herror ⟨hlo, hhi⟩

theorem outcome_eq_none_iff (h : Represents poll past) :
    (poll.note answer).outcome answer = none ↔ ∀ m, ¬ AtOnce past answer m := by
  rw [Option.eq_none_iff_forall_ne_some]
  exact forall_congr' fun m => not_congr (outcome_eq_some_iff h)

theorem starts_iff (h : Represents poll past) :
    answer = ⟨0x02, 0x04, 0x02⟩ ∧ poll.startSent = false ↔ Starts past answer := by
  refine and_congr_right fun ha => ?_
  rw [← Bool.not_eq_true, h.startSent, ha]

theorem stalled_iff (h : Represents poll past) (hold : answer ∈ answers past) {now : ℕ} :
    readyStall ≤ now - poll.lastProgress ↔ Stalled past answer now := by
  have hlast := h.lastProgress fun h0 => by subst h0; cases hold
  constructor
  · exact fun hstall => ⟨hold, _, hlast, hstall⟩
  · rintro ⟨-, last, hl, hstall⟩
    rwa [hlast.unique hl]

/-- The state after an answer that was waited out. -/
def Poll.after (poll : Poll) (answer : ScsiSense) (now : ℕ) : Poll :=
  if answer ∈ poll.seen then poll.note answer
  else { poll.note answer with
    startSent := poll.startSent || answer == ⟨0x02, 0x04, 0x02⟩
    seen := poll.seen ++ [answer]
    lastProgress := now }

theorem after_of_mem (poll : Poll) (h : answer ∈ poll.seen) (now : ℕ) :
    poll.after answer now = poll.note answer := if_pos h

theorem after_of_notMem (poll : Poll) (sent : Bool) (h : answer ∉ poll.seen)
    (hsent : sent = (poll.startSent || answer == ⟨0x02, 0x04, 0x02⟩)) (now : ℕ) :
    { poll.note answer with
      startSent := sent, seen := poll.seen ++ [answer], lastProgress := now } =
      poll.after answer now := by
  unfold Poll.after
  rw [if_neg h, hsent]

theorem represents_after (h : Represents poll past) (answer : ScsiSense) (now : ℕ) :
    Represents (poll.after answer now) (past ++ [⟨answer, now⟩]) := by
  have hempty : (poll.note answer).emptyRun = emptyTail (answers (past ++ [⟨answer, now⟩])) := by
    rw [answers_snoc]
    exact note_emptyRun h answer
  have hbecoming : (poll.note answer).becomingReadySeen = true ↔
      ⟨0x02, 0x04, 0x01⟩ ∈ answers (past ++ [⟨answer, now⟩]) := by
    rw [mem_answers_snoc, eq_comm (b := answer)]
    exact note_becomingReadySeen h answer
  unfold Poll.after
  by_cases hmem : answer ∈ poll.seen
  · have hold := (h.seen answer).mp hmem
    have hsame (a : ScsiSense) : a ∈ answers (past ++ [⟨answer, now⟩]) ↔ a ∈ answers past := by
      rw [mem_answers_snoc]
      exact or_iff_left_of_imp fun ha => ha ▸ hold
    rw [if_pos hmem]
    exact ⟨fun a => (h.seen a).trans (hsame a).symm,
      fun _ => (h.lastProgress fun h0 => by subst h0; cases hold).snoc_old hold,
      h.startSent.trans (hsame _).symm, hempty, hbecoming⟩
  · rw [if_neg hmem]
    refine ⟨fun a => ?_, fun _ => .snoc_new fun hold => hmem ((h.seen answer).mpr hold), ?_,
      hempty, hbecoming⟩
    · rw [mem_answers_snoc, List.mem_append, List.mem_singleton, h.seen]
    · rw [mem_answers_snoc, Bool.or_eq_true, h.startSent, beq_iff_eq, eq_comm (a := answer)]

end History

/-! ## One poll -/

section Poll

variable {past : List Pending} {poll poll' : Poll} {answer : ScsiSense} {clock : Clock}
  {τ : List (Event Scsi)}

theorem turReply_ready {o : Outcome 0} : turReply o = .ok none ↔ Ready o := by
  unfold turReply Ready
  rcases o.result with e | r
  · cases he : e.sense <;> simp [he]
  · by_cases hs : r.status = 0 <;> simp [hs]

theorem turReply_unready {o : Outcome 0} {answer : ScsiSense} :
    (∃ sense, turReply o = .ok (some sense) ∧ answer = .fromBuf sense) ↔ Unready o answer := by
  unfold turReply Unready
  rcases o.result with e | r
  · cases he : e.sense <;> simp [he]
  · by_cases hs : r.status = 0 <;> simp [hs]

theorem turReply_senseless {o : Outcome 0} {err : Error} :
    turReply o = .error err ↔ ∃ e, Senseless o e ∧ err = .ofScsiError e := by
  unfold turReply Senseless
  rcases o.result with e | r
  · cases he : e.sense <;> simp [he, eq_comm]
  · by_cases hs : r.status = 0 <;> simp [hs]

theorem startUnitReply_ok {o : Outcome 0} {u : Unit} :
    startUnitReply o = .ok u ↔ ∀ e, ¬ Senseless o e := by
  unfold startUnitReply Senseless
  rcases o.result with e | r
  · by_cases he : e.sense = none <;> simp [he]
  · simp

theorem startUnitReply_error {o : Outcome 0} {err : Error} :
    startUnitReply o = .error err ↔ ∃ e, Senseless o e ∧ err = .ofScsiError e := by
  unfold startUnitReply Senseless
  rcases o.result with e | r
  · by_cases he : e.sense = none <;> simp [he, eq_comm]
  · simp

theorem run_testUnitReady_iff {r : Except Error (Option (Vector UInt8 32))} :
    Run testUnitReady.run τ r ↔ ∃ o : Outcome 0, τ = [polled o] ∧ r = turReply o :=
  run_ask_result_iff

theorem run_startUnit_iff {r : Except Error Unit} :
    Run startUnit.run τ r ↔ ∃ o : Outcome 0, τ = [started o] ∧ r = startUnitReply o :=
  run_ask_result_iff

theorem run_elapsed_bind_iff {α : Type} {f : ℕ → Polling α} {r : Except Error α} :
    Run ((Stateful.lift clock.elapsed >>= f).prog poll) τ (r, poll') ↔
      ∃ (t : ℕ) (τ' : List (Event Scsi)), τ = clockRead t :: τ' ∧
        Run ((f (t - clock)).prog poll) τ' (r, poll') := by
  rw [Stateful.run_bind_iff]
  constructor
  · rintro (⟨e, -, h⟩ | ⟨τ₁, now, s, τ₂, rfl, h₁, h₂⟩)
    · obtain ⟨_, -, he⟩ := run_elapsed_iff.mp (Stateful.run_lift_iff.mp h).1
      cases he
    · obtain ⟨hread, rfl⟩ := Stateful.run_lift_iff.mp h₁
      obtain ⟨t, rfl, ht⟩ := run_elapsed_iff.mp hread
      obtain rfl := Except.ok.inj ht
      exact ⟨t, τ₂, rfl, h₂⟩
  · rintro ⟨t, τ', rfl, h⟩
    exact .inr ⟨[clockRead t], t - clock, poll, τ', rfl,
      Stateful.run_lift_iff.mpr ⟨run_elapsed_iff.mpr ⟨t, rfl, rfl⟩, rfl⟩, h⟩

theorem run_startOnce_sent_iff (hs : answer = ⟨0x02, 0x04, 0x02⟩ ∧ poll.startSent = false)
    {r : Except Error Unit} :
    Run ((startOnce clock answer).prog poll) τ (r, poll') ↔ ∃ (t : ℕ) (o : Outcome 0),
      τ = [clockRead t, started o] ∧ r = startUnitReply o ∧
      poll' = { poll with startSent := true, lastProgress := t - clock } := by
  refine Stateful.run_get_bind_iff.trans ?_
  rw [if_pos hs, run_elapsed_bind_iff]
  refine exists_congr fun t => ?_
  constructor
  · rintro ⟨τ', rfl, h⟩
    obtain ⟨hstart, rfl⟩ := Stateful.run_lift_iff.mp
      (Stateful.run_set_bind_iff (f := fun _ => Stateful.lift startUnit) |>.mp h)
    obtain ⟨o, rfl, rfl⟩ := run_startUnit_iff.mp hstart
    exact ⟨o, rfl, rfl, rfl⟩
  · rintro ⟨o, rfl, rfl, rfl⟩
    exact ⟨[started o], rfl, (Stateful.run_set_bind_iff (f := fun _ => Stateful.lift startUnit)).mpr
      (Stateful.run_lift_iff.mpr ⟨run_startUnit_iff.mpr ⟨o, rfl, rfl⟩, rfl⟩)⟩

theorem run_startOnce_none_iff (hs : ¬ (answer = ⟨0x02, 0x04, 0x02⟩ ∧ poll.startSent = false))
    {r : Except Error Unit} :
    Run ((startOnce clock answer).prog poll) τ (r, poll') ↔
      τ = [] ∧ r = .ok () ∧ poll' = poll := by
  refine Stateful.run_get_bind_iff.trans ?_
  rw [if_neg hs, Stateful.run_pure_iff]

theorem run_progress_iff {r : Except Error (Option MediaReady)} :
    Run ((progress clock answer).prog poll) τ (r, poll') ↔ ∃ t : ℕ, τ = [clockRead t] ∧
      (answer ∉ poll.seen ∧ r = .ok none ∧
        poll' = { poll with seen := poll.seen ++ [answer], lastProgress := t - clock } ∨
      answer ∈ poll.seen ∧ poll' = poll ∧
        (readyStall ≤ t - clock - poll.lastProgress ∧
          r = .ok (some (.stalled answer.senseKey answer.asc answer.ascq)) ∨
        ¬ readyStall ≤ t - clock - poll.lastProgress ∧ r = .ok none)) := by
  refine (Stateful.run_get_bind_iff.trans run_elapsed_bind_iff).trans (exists_congr fun t => ?_)
  constructor
  · rintro ⟨τ', rfl, h⟩
    split_ifs at h with hnew hstall
    · obtain ⟨rfl, rfl, rfl⟩ := Stateful.run_pure_iff.mp h
      exact ⟨rfl, .inr ⟨hnew, rfl, .inl ⟨hstall, rfl⟩⟩⟩
    · obtain ⟨rfl, rfl, rfl⟩ := Stateful.run_pure_iff.mp h
      exact ⟨rfl, .inr ⟨hnew, rfl, .inr ⟨hstall, rfl⟩⟩⟩
    · obtain ⟨rfl, rfl, rfl⟩ := Stateful.run_pure_iff.mp
        (Stateful.run_set_bind_iff (f := fun _ => pure none) |>.mp h)
      exact ⟨rfl, .inl ⟨hnew, rfl, rfl⟩⟩
  · rintro ⟨rfl, ⟨hnew, rfl, rfl⟩ | ⟨hold, rfl, ⟨hstall, rfl⟩ | ⟨hstall, rfl⟩⟩⟩
    · refine ⟨[], rfl, ?_⟩
      rw [if_pos hnew]
      exact (Stateful.run_set_bind_iff (f := fun _ => pure none)).mpr
        (Stateful.run_pure_iff.mpr ⟨rfl, rfl, rfl⟩)
    · refine ⟨[], rfl, ?_⟩
      rw [if_neg (not_not.mpr hold), if_pos hstall, Stateful.run_pure_iff]
      exact ⟨rfl, rfl, rfl⟩
    · refine ⟨[], rfl, ?_⟩
      rw [if_neg (not_not.mpr hold), if_neg hstall, Stateful.run_pure_iff]
      exact ⟨rfl, rfl, rfl⟩

/-- What the wait after a poll makes of the poll. -/
def afterWait (p : Except ScsiError Unit) : Except Error (Option MediaReady) :=
  match p with
  | .ok _ => .ok none
  | .error e => .error (.ofScsiError e)

/-- The part of a poll after START STOP UNIT. -/
def measure (clock : Clock) (answer : ScsiSense) : Polling (Option MediaReady) := do
  match ← progress clock answer with
  | some outcome => return some outcome
  | none => do
    Stateful.lift (wait readyPollMs)
    return none

theorem run_lastWait_iff {r : Except Error (Option MediaReady)} :
    Run (Stateful.prog (do Stateful.lift (wait readyPollMs); return none) poll) τ (r, poll') ↔
      ∃ p, τ = [waited p] ∧ r = afterWait p ∧ poll' = poll := by
  rw [Stateful.run_bind_iff]
  constructor
  · rintro (⟨e, rfl, h⟩ | ⟨τ₁, u, s, τ₂, rfl, h₁, h₂⟩)
    · obtain ⟨hwait, rfl⟩ := Stateful.run_lift_iff.mp h
      obtain ⟨p, rfl, hp⟩ := run_wait_iff.mp hwait
      rcases p with e' | _
      · obtain rfl := Except.error.inj hp
        exact ⟨_, rfl, rfl, rfl⟩
      · cases hp
    · obtain ⟨hwait, rfl⟩ := Stateful.run_lift_iff.mp h₁
      obtain ⟨p, rfl, hp⟩ := run_wait_iff.mp hwait
      obtain ⟨rfl, rfl, rfl⟩ := Stateful.run_pure_iff.mp h₂
      rcases p with e' | _
      · cases hp
      · exact ⟨_, rfl, rfl, rfl⟩
  · rintro ⟨e | _, rfl, rfl, rfl⟩
    · exact .inl ⟨_, rfl, Stateful.run_lift_iff.mpr ⟨run_wait_iff.mpr ⟨_, rfl, rfl⟩, rfl⟩⟩
    · exact .inr ⟨[waited (.ok ())], (), poll', [], rfl,
        Stateful.run_lift_iff.mpr ⟨run_wait_iff.mpr ⟨_, rfl, rfl⟩, rfl⟩,
        Stateful.run_pure_iff.mpr ⟨rfl, rfl, rfl⟩⟩

/-- A known answer whose window is closed ends the poll; anything else is waited out. -/
theorem run_measure_iff {r : Except Error (Option MediaReady)} :
    Run ((measure clock answer).prog poll) τ (r, poll') ↔ ∃ t : ℕ,
      (answer ∈ poll.seen ∧ readyStall ≤ t - clock - poll.lastProgress ∧ τ = [clockRead t] ∧
        r = .ok (some (.stalled answer.senseKey answer.asc answer.ascq)) ∧ poll' = poll) ∨
      ∃ p, τ = [clockRead t, waited p] ∧ r = afterWait p ∧
        (answer ∉ poll.seen ∧
            poll' = { poll with seen := poll.seen ++ [answer], lastProgress := t - clock } ∨
          answer ∈ poll.seen ∧ ¬ readyStall ≤ t - clock - poll.lastProgress ∧ poll' = poll) := by
  unfold measure
  rw [Stateful.run_bind_iff]
  constructor
  · rintro (⟨e, rfl, h⟩ | ⟨τ₁, o, s, τ₂, rfl, h₁, h₂⟩)
    · obtain ⟨t, -, ⟨-, he, -⟩ | ⟨-, -, ⟨-, he⟩ | ⟨-, he⟩⟩⟩ := run_progress_iff.mp h <;> cases he
    · obtain ⟨t, rfl, ⟨hnew, ho, rfl⟩ | ⟨hold, rfl, ⟨hstall, ho⟩ | ⟨hstall, ho⟩⟩⟩ :=
        run_progress_iff.mp h₁
      · obtain rfl := Except.ok.inj ho
        obtain ⟨p, rfl, rfl, rfl⟩ := run_lastWait_iff.mp h₂
        exact ⟨t, .inr ⟨p, rfl, rfl, .inl ⟨hnew, rfl⟩⟩⟩
      · obtain rfl := Except.ok.inj ho
        obtain ⟨rfl, rfl, rfl⟩ := Stateful.run_pure_iff.mp h₂
        exact ⟨t, .inl ⟨hold, hstall, rfl, rfl, rfl⟩⟩
      · obtain rfl := Except.ok.inj ho
        obtain ⟨p, rfl, rfl, rfl⟩ := run_lastWait_iff.mp h₂
        exact ⟨t, .inr ⟨p, rfl, rfl, .inr ⟨hold, hstall, rfl⟩⟩⟩
  · rintro ⟨t, ⟨hold, hstall, rfl, rfl, rfl⟩ | ⟨p, rfl, rfl, ⟨hnew, rfl⟩ | ⟨hold, hstall, rfl⟩⟩⟩
    · exact .inr ⟨[clockRead t], _, poll', [], rfl,
        run_progress_iff.mpr ⟨t, rfl, .inr ⟨hold, rfl, .inl ⟨hstall, rfl⟩⟩⟩,
        Stateful.run_pure_iff.mpr ⟨rfl, rfl, rfl⟩⟩
    · exact .inr ⟨[clockRead t], none, _, [waited p], rfl,
        run_progress_iff.mpr ⟨t, rfl, .inl ⟨hnew, rfl, rfl⟩⟩,
        run_lastWait_iff.mpr ⟨p, rfl, rfl, rfl⟩⟩
    · exact .inr ⟨[clockRead t], none, _, [waited p], rfl,
        run_progress_iff.mpr ⟨t, rfl, .inr ⟨hold, rfl, .inr ⟨hstall, rfl⟩⟩⟩,
        run_lastWait_iff.mpr ⟨p, rfl, rfl, rfl⟩⟩

theorem run_pending_iff (h : Represents poll past) {r : Except Error (Option MediaReady)} :
    Run (Stateful.prog (do startOnce clock answer; measure clock answer) (poll.note answer)) τ
        (r, poll') ↔
      (∃ (t : ℕ) (o : Outcome 0) (e : ScsiError), Starts past answer ∧ Senseless o e ∧
        τ = [clockRead t, started o] ∧ r = .error (.ofScsiError e) ∧
        poll' = { poll.note answer with startSent := true, lastProgress := t - clock }) ∨
      ∃ t : ℕ,
        (Stalled past answer (t - clock) ∧ τ = [clockRead t] ∧
          r = .ok (some (.stalled answer.senseKey answer.asc answer.ascq)) ∧
          poll' = poll.note answer) ∨
        ∃ τ₀ p, Start past answer τ₀ ∧ ¬ Stalled past answer (t - clock) ∧
          τ = τ₀ ++ [clockRead t, waited p] ∧ r = afterWait p ∧
          poll' = poll.after answer (t - clock) := by
  have hseen : answer ∈ (poll.note answer).seen ↔ answer ∈ answers past := h.seen answer
  rw [Stateful.run_bind_iff]
  by_cases hs : Starts past answer
  · have hs' : answer = ⟨0x02, 0x04, 0x02⟩ ∧ (poll.note answer).startSent = false :=
      (starts_iff h).mpr hs
    have hnew := mt hseen.mp hs.2
    have hafter (now : ℕ) := after_of_notMem poll true hnew (by simp [hs.1]) now
    simp only [run_startOnce_sent_iff hs']
    constructor
    · rintro (⟨e, rfl, t, o, rfl, he, rfl⟩ | ⟨τ₁, u, s, τ₂, rfl, ⟨t, o, rfl, ho, rfl⟩, h₂⟩)
      · obtain ⟨e', hsense, rfl⟩ := startUnitReply_error.mp he.symm
        exact .inl ⟨t, o, e', hs, hsense, rfl, rfl, rfl⟩
      · obtain ⟨t', ⟨hold, -⟩ | ⟨p, rfl, rfl, ⟨-, rfl⟩ | ⟨hold, -⟩⟩⟩ := run_measure_iff.mp h₂
        · exact absurd hold hnew
        · exact .inr ⟨t', .inr ⟨_, p, .sent hs (startUnitReply_ok.mp ho.symm),
            fun hst => hs.2 hst.1, rfl, rfl, hafter _⟩⟩
        · exact absurd hold hnew
    · rintro (⟨t, o, e, -, hsense, rfl, rfl, rfl⟩ |
        ⟨t, ⟨hst, -⟩ | ⟨τ₀, p, hstart, -, rfl, rfl, rfl⟩⟩)
      · exact .inl ⟨_, rfl, t, o, rfl, (startUnitReply_error.mpr ⟨e, hsense, rfl⟩).symm, rfl⟩
      · exact absurd hst.1 hs.2
      · rcases hstart with ⟨-, hok⟩ | hns
        · exact .inr ⟨_, (), _, _, rfl, ⟨_, _, rfl, (startUnitReply_ok.mpr hok).symm, rfl⟩,
            run_measure_iff.mpr ⟨t, .inr ⟨p, rfl, rfl, .inl ⟨hnew, (hafter _).symm⟩⟩⟩⟩
        · exact absurd hs hns
  · have hs' : ¬ (answer = ⟨0x02, 0x04, 0x02⟩ ∧ (poll.note answer).startSent = false) :=
      mt (starts_iff h).mp hs
    have hafter (hnew : answer ∉ poll.seen) (now : ℕ) :=
      after_of_notMem poll poll.startSent hnew (by
        have hne : answer ≠ ⟨0x02, 0x04, 0x02⟩ := fun ha => hs ⟨ha, mt (h.seen answer).mpr hnew⟩
        simp [hne]) now
    simp only [run_startOnce_none_iff hs']
    constructor
    · rintro (⟨e, -, -, he, -⟩ | ⟨τ₁, u, s, τ₂, rfl, ⟨rfl, -, rfl⟩, h₂⟩)
      · cases he
      obtain ⟨t, ⟨hold, hstall, rfl, rfl, rfl⟩ | ⟨p, rfl, rfl, ⟨hnew, rfl⟩ | ⟨hold, hwin, rfl⟩⟩⟩ :=
        run_measure_iff.mp h₂
      · exact .inr ⟨t, .inl ⟨(stalled_iff h (hseen.mp hold)).mp hstall, rfl, rfl, rfl⟩⟩
      · exact .inr ⟨t, .inr ⟨[], p, .none hs, fun hst => hnew (hseen.mpr hst.1), rfl, rfl,
          hafter hnew _⟩⟩
      · exact .inr ⟨t, .inr ⟨[], p, .none hs, mt (stalled_iff h (hseen.mp hold)).mpr hwin, rfl,
          rfl, (after_of_mem poll hold _).symm⟩⟩
    · rintro (⟨t, o, e, hst, -⟩ | ⟨t, ⟨hst, rfl, rfl, rfl⟩ | ⟨τ₀, p, hstart, hst, rfl, rfl, rfl⟩⟩)
      · exact absurd hst hs
      · exact .inr ⟨[], (), _, _, rfl, ⟨rfl, trivial, rfl⟩, run_measure_iff.mpr
          ⟨t, .inl ⟨hseen.mpr hst.1, (stalled_iff h hst.1).mpr hst, rfl, rfl, rfl⟩⟩⟩
      · rcases hstart with ⟨hsent, -⟩ | -
        · exact absurd hsent hs
        refine .inr ⟨[], (), _, _, rfl, ⟨rfl, trivial, rfl⟩, run_measure_iff.mpr
          ⟨t, .inr ⟨p, rfl, rfl, ?_⟩⟩⟩
        by_cases hmem : answer ∈ poll.seen
        · exact .inr ⟨hmem, mt (stalled_iff h (hseen.mp hmem)).mp hst, after_of_mem poll hmem _⟩
        · exact .inl ⟨hmem, (hafter hmem _).symm⟩

def onAnswer (clock : Clock) (answer : ScsiSense) : Polling (Option MediaReady) := do
  let poll ← get
  set (poll.note answer)
  match (poll.note answer).outcome answer with
  | some outcome => return some outcome
  | none => do
    startOnce clock answer
    measure clock answer

theorem run_onAnswer_iff (h : Represents poll past) {r : Except Error (Option MediaReady)} :
    Run ((onAnswer clock answer).prog poll) τ (r, poll') ↔
      (∃ m, AtOnce past answer m ∧ τ = [] ∧ r = .ok (some m) ∧ poll' = poll.note answer) ∨
      (∀ m, ¬ AtOnce past answer m) ∧
        Run (Stateful.prog (do startOnce clock answer; measure clock answer) (poll.note answer)) τ
          (r, poll') := by
  refine Stateful.run_get_bind_iff.trans ((Stateful.run_set_bind_iff (f := fun _ => _)).trans ?_)
  rcases hout : (poll.note answer).outcome answer with _ | m
  · have hnone := (outcome_eq_none_iff h).mp hout
    simp only [hnone, false_and, exists_false, false_or, not_false_eq_true, implies_true, true_and]
  · have hm := (outcome_eq_some_iff h).mp hout
    rw [Stateful.run_pure_iff]
    constructor
    · rintro ⟨rfl, rfl, rfl⟩
      exact .inl ⟨m, hm, rfl, rfl, rfl⟩
    · rintro (⟨m', hm', rfl, rfl, rfl⟩ | ⟨hnone, -⟩)
      · obtain rfl := Option.some.inj (hout.symm.trans ((outcome_eq_some_iff h).mpr hm'))
        exact ⟨rfl, rfl, rfl⟩
      · exact absurd hm (hnone m)

theorem run_pollOnce_iff {r : Except Error (Option MediaReady)} :
    Run ((pollOnce clock).prog poll) τ (r, poll') ↔ ∃ o τ', τ = polled o :: τ' ∧
      ((Ready o ∧ τ' = [] ∧ r = .ok (some .ready) ∧ poll' = poll) ∨
      (∃ e, Senseless o e ∧ τ' = [] ∧ r = .error (.ofScsiError e) ∧ poll' = poll) ∨
      ∃ answer, Unready o answer ∧ Run ((onAnswer clock answer).prog poll) τ' (r, poll')) := by
  refine Stateful.run_bind_iff.trans ?_
  constructor
  · rintro (⟨err, rfl, h⟩ | ⟨τ₁, sense, s, τ₂, rfl, h₁, h₂⟩)
    · obtain ⟨hpoll, rfl⟩ := Stateful.run_lift_iff.mp h
      obtain ⟨o, rfl, ho⟩ := run_testUnitReady_iff.mp hpoll
      obtain ⟨e, he, rfl⟩ := turReply_senseless.mp ho.symm
      exact ⟨o, [], rfl, .inr (.inl ⟨e, he, rfl, rfl, rfl⟩)⟩
    · obtain ⟨hpoll, rfl⟩ := Stateful.run_lift_iff.mp h₁
      obtain ⟨o, rfl, ho⟩ := run_testUnitReady_iff.mp hpoll
      refine ⟨o, τ₂, rfl, ?_⟩
      rcases sense with _ | sense
      · obtain ⟨rfl, rfl, rfl⟩ := Stateful.run_pure_iff.mp h₂
        exact .inl ⟨turReply_ready.mp ho.symm, rfl, rfl, rfl⟩
      · exact .inr (.inr ⟨_, turReply_unready.mp ⟨sense, ho.symm, rfl⟩, h₂⟩)
  · rintro ⟨o, τ', rfl, ⟨ho, rfl, rfl, rfl⟩ | ⟨e, he, rfl, rfl, rfl⟩ | ⟨answer, ho, h⟩⟩
    · exact .inr ⟨[polled o], none, poll', [], rfl, Stateful.run_lift_iff.mpr
        ⟨run_testUnitReady_iff.mpr ⟨o, rfl, (turReply_ready.mpr ho).symm⟩, rfl⟩,
        Stateful.run_pure_iff.mpr ⟨rfl, rfl, rfl⟩⟩
    · exact .inl ⟨_, rfl, Stateful.run_lift_iff.mpr ⟨run_testUnitReady_iff.mpr
        ⟨o, rfl, (turReply_senseless.mpr ⟨e, he, rfl⟩).symm⟩, rfl⟩⟩
    · obtain ⟨sense, hs, rfl⟩ := turReply_unready.mpr ho
      exact .inr ⟨[polled o], some sense, poll, τ', rfl, Stateful.run_lift_iff.mpr
        ⟨run_testUnitReady_iff.mpr ⟨o, rfl, hs.symm⟩, rfl⟩, h⟩

/-- One poll follows the rule. -/
theorem run_pollOnce (h : Represents poll past) {r : Except Error (Option MediaReady)}
    (hr : Run ((pollOnce clock).prog poll) τ (r, poll')) :
    (∃ p, r = .ok none ∧ Passes clock past p τ ∧ Represents poll' (past ++ [p])) ∨
      ∃ q, r = Stateful.yielded q ∧ Ends clock past τ q := by
  obtain ⟨o, τ', rfl, ⟨ho, rfl, rfl, -⟩ | ⟨e, he, rfl, rfl, -⟩ | ⟨answer, ho, hr⟩⟩ :=
    run_pollOnce_iff.mp hr
  · exact .inr ⟨.ok .ready, rfl, .ready ho⟩
  · exact .inr ⟨.error (.ofScsiError e), rfl, .deadPoll he⟩
  rcases (run_onAnswer_iff h).mp hr with ⟨m, hm, rfl, rfl, -⟩ | ⟨hnone, hr⟩
  · exact .inr ⟨.ok m, rfl, .atOnce ho hm⟩
  rcases (run_pending_iff h).mp hr with ⟨t, o', e, hs, he, rfl, rfl, -⟩ |
    ⟨t, ⟨hst, rfl, rfl, -⟩ | ⟨τ₀, p, hstart, hst, rfl, rfl, rfl⟩⟩
  · exact .inr ⟨.error (.ofScsiError e), rfl, .deadStart ho hnone hs he⟩
  · exact .inr ⟨.ok _, rfl, .stalled ho hnone hst⟩
  · rcases p with e | _
    · exact .inr ⟨.error (.ofScsiError e), rfl, .stopped ho hnone hstart hst⟩
    · exact .inl ⟨_, rfl, .mk ho hnone hstart hst, represents_after h answer (t - clock)⟩

theorem exists_run_of_passes (h : Represents poll past) {p : Pending}
    (hp : Passes clock past p τ) : ∃ poll', Run ((pollOnce clock).prog poll) τ (.ok none, poll') ∧
      Represents poll' (past ++ [p]) := by
  obtain ⟨ho, hnone, hstart, hst⟩ := hp
  exact ⟨_, run_pollOnce_iff.mpr ⟨_, _, rfl, .inr (.inr ⟨_, ho, (run_onAnswer_iff h).mpr
    (.inr ⟨hnone, (run_pending_iff h).mpr
      (.inr ⟨_, .inr ⟨_, .ok (), hstart, hst, rfl, rfl, rfl⟩⟩)⟩)⟩)⟩, represents_after h _ _⟩

theorem exists_run_of_ends (h : Represents poll past) {q : Except Error MediaReady}
    (hq : Ends clock past τ q) :
    ∃ poll', Run ((pollOnce clock).prog poll) τ (Stateful.yielded q, poll') := by
  -- every ending but two is decided on an answer
  have hanswer {o : Outcome 0} {a : ScsiSense} {τ' : List (Event Scsi)} {q} (ho : Unready o a)
      (hr : ∃ poll', Run ((onAnswer clock a).prog poll) τ' (Stateful.yielded q, poll')) :
      ∃ poll', Run ((pollOnce clock).prog poll) (polled o :: τ') (Stateful.yielded q, poll') :=
    hr.imp fun _ hr => run_pollOnce_iff.mpr ⟨_, _, rfl, .inr (.inr ⟨_, ho, hr⟩)⟩
  have hpending {a : ScsiSense} {τ' : List (Event Scsi)} {q} (hnone : ∀ m, ¬ AtOnce past a m)
      (hr : ∃ poll', Run (Stateful.prog (do startOnce clock a; measure clock a) (poll.note a)) τ'
        (Stateful.yielded q, poll')) :
      ∃ poll', Run ((onAnswer clock a).prog poll) τ' (Stateful.yielded q, poll') :=
    hr.imp fun _ hr => (run_onAnswer_iff h).mpr (.inr ⟨hnone, hr⟩)
  cases hq with
  | ready ho => exact ⟨poll, run_pollOnce_iff.mpr ⟨_, _, rfl, .inl ⟨ho, rfl, rfl, rfl⟩⟩⟩
  | deadPoll he =>
    exact ⟨poll, run_pollOnce_iff.mpr ⟨_, _, rfl, .inr (.inl ⟨_, he, rfl, rfl, rfl⟩)⟩⟩
  | atOnce ho hm =>
    exact hanswer ho ⟨_, (run_onAnswer_iff h).mpr (.inl ⟨_, hm, rfl, rfl, rfl⟩)⟩
  | stalled ho hnone hst =>
    exact hanswer ho (hpending hnone ⟨_, (run_pending_iff h).mpr
      (.inr ⟨_, .inl ⟨hst, rfl, rfl, rfl⟩⟩)⟩)
  | deadStart ho hnone hs he =>
    exact hanswer ho (hpending hnone ⟨_, (run_pending_iff h).mpr
      (.inl ⟨_, _, _, hs, he, rfl, rfl, rfl⟩)⟩)
  | stopped ho hnone hstart hst =>
    exact hanswer ho (hpending hnone ⟨_, (run_pending_iff h).mpr
      (.inr ⟨_, .inr ⟨_, .error _, hstart, hst, rfl, rfl, rfl⟩⟩)⟩)

/-! ## All polls -/

theorem waits_of_rounds {n t : ℕ}
    (h : Stateful.Rounds (pollOnce clock) n ⟨[], t, false, 0, false⟩ τ poll) :
    ∃ past, past.length = n ∧ Waits clock past τ ∧ Represents poll past := by
  induction n generalizing τ poll with
  | zero =>
    obtain ⟨rfl, rfl⟩ := Stateful.rounds_zero_iff.mp h
    exact ⟨[], rfl, .nil, represents_start t⟩
  | succ n ih =>
    obtain ⟨τ₁, s, τ₂, rfl, hrounds, hr⟩ := Stateful.rounds_succ_iff.mp h
    obtain ⟨past, rfl, hwaits, hrep⟩ := ih hrounds
    rcases run_pollOnce hrep hr with ⟨p, -, hp, hrep'⟩ | ⟨_ | _, hq, -⟩
    · exact ⟨past ++ [p], by simp, .snoc hwaits hp, hrep'⟩
    · cases hq
    · cases hq

theorem rounds_of_waits {t : ℕ} (h : Waits clock past τ) : ∃ poll,
    Stateful.Rounds (pollOnce clock) past.length ⟨[], t, false, 0, false⟩ τ poll ∧
      Represents poll past := by
  induction h with
  | nil => exact ⟨_, .zero _, represents_start t⟩
  | snoc _ hp ih =>
    obtain ⟨poll, hrounds, hrep⟩ := ih
    obtain ⟨poll', hr, hrep'⟩ := exists_run_of_passes hrep hp
    exact ⟨poll', by simpa using .succ hrounds hr, hrep'⟩

/-- The poll's runs are those of the rule, from answers that were waited out to the ending. -/
theorem run_awaitMediaReady_iff {fuel : ℕ} {r : Except Error MediaReady} :
    Run (awaitMediaReady fuel clock).run τ r ↔ ∃ t past τ₁ τ₂, past.length < fuel ∧
      τ = clockRead t :: (τ₁ ++ τ₂) ∧ Waits clock past τ₁ ∧ Ends clock past τ₂ r := by
  constructor
  · intro h
    rcases run_fallible_bind_iff.mp h with ⟨e, -, h₁⟩ | ⟨τ₀, now, τ', rfl, h₁, h₂⟩
    · obtain ⟨_, -, he⟩ := run_elapsed_iff.mp h₁
      cases he
    obtain ⟨t, rfl, -⟩ := run_elapsed_iff.mp h₁
    obtain ⟨poll', hretry⟩ := Stateful.run_eval_iff.mp h₂
    obtain ⟨n, hn, τ₁, poll, τ₂, rfl, hrounds, hlast⟩ := Stateful.run_retry_iff.mp hretry
    obtain ⟨past, rfl, hwaits, hrep⟩ := waits_of_rounds hrounds
    refine ⟨t, past, τ₁, τ₂, hn, rfl, hwaits, ?_⟩
    rcases run_pollOnce hrep hlast with ⟨p, hp, -⟩ | ⟨q, hq, hends⟩
    · cases r <;> cases hp
    · obtain rfl : r = q := by cases r <;> cases q <;> cases hq <;> rfl
      exact hends
  · rintro ⟨t, past, τ₁, τ₂, hn, rfl, hwaits, hends⟩
    obtain ⟨poll, hrounds, hrep⟩ := rounds_of_waits (t := t - clock) hwaits
    obtain ⟨poll', hlast⟩ := exists_run_of_ends hrep hends
    exact run_fallible_bind_iff.mpr (.inr ⟨[clockRead t], t - clock, τ₁ ++ τ₂, rfl,
      run_elapsed_iff.mpr ⟨t, rfl, rfl⟩, Stateful.run_eval_iff.mpr ⟨poll',
        Stateful.run_retry_iff.mpr ⟨_, hn, τ₁, poll, τ₂, rfl, hrounds, hlast⟩⟩⟩)

/-! ## What the rule comes to -/

def IsStart (e : Event Scsi) : Prop := e.1 = .execute startUnitCdb .none [] startUnitTimeoutMs

def IsPoll (e : Event Scsi) : Prop :=
  e.1 = .execute [scsiTestUnitReady, 0, 0, 0, 0, 0] .none [] turTimeoutMs

instance : DecidablePred IsStart := fun e => instDecidableEqOp e.1 _

instance : DecidablePred IsPoll := fun e => instDecidableEqOp e.1 _

instance (past : List Pending) (answer : ScsiSense) : Decidable (Starts past answer) :=
  inferInstanceAs (Decidable (_ ∧ _))

@[simp] theorem isStart_polled {o : Outcome 0} : ¬ IsStart (polled o) :=
  fun h => absurd (Op.execute.inj h).1 (by decide)

@[simp] theorem isStart_started {o : Outcome 0} : IsStart (started o) := rfl

@[simp] theorem isStart_clockRead {t : ℕ} : ¬ IsStart (clockRead t) := nofun

@[simp] theorem isStart_waited {p : Except ScsiError Unit} : ¬ IsStart (waited p) := nofun

@[simp] theorem isPoll_polled {o : Outcome 0} : IsPoll (polled o) := rfl

@[simp] theorem isPoll_started {o : Outcome 0} : ¬ IsPoll (started o) :=
  fun h => absurd (Op.execute.inj h).1 (by decide)

@[simp] theorem isPoll_clockRead {t : ℕ} : ¬ IsPoll (clockRead t) := nofun

@[simp] theorem isPoll_waited {p : Except ScsiError Unit} : ¬ IsPoll (waited p) := nofun

def starts (τ : List (Event Scsi)) : ℕ := τ.countP (IsStart ·)

def polls (τ : List (Event Scsi)) : ℕ := τ.countP (IsPoll ·)

theorem starts_start (h : Start past answer τ) :
    starts τ = if Starts past answer then 1 else 0 := by
  rcases h with ⟨hs, -⟩ | hs <;> simp [starts, hs]

theorem starts_passes {p : Pending} (h : Passes clock past p τ) :
    starts τ = if Starts past p.answer then 1 else 0 := by
  obtain ⟨-, -, hstart, -⟩ := h
  rw [← starts_start hstart]
  simp [starts]

/-- One START STOP UNIT for the first answer that asks for it. -/
theorem starts_waits (h : Waits clock past τ) :
    starts τ = if ⟨0x02, 0x04, 0x02⟩ ∈ answers past then 1 else 0 := by
  induction h with
  | nil => rfl
  | @snoc past p τ₁ τ₂ _ hp ih =>
    have happend : starts (τ₁ ++ τ₂) = starts τ₁ + starts τ₂ := List.countP_append
    rw [happend, ih, starts_passes hp]
    simp only [mem_answers_snoc, Starts, eq_comm (a := p.answer)]
    by_cases hold : ⟨0x02, 0x04, 0x02⟩ ∈ answers past
    · by_cases ha : ⟨0x02, 0x04, 0x02⟩ = p.answer
      · simp [hold, ← ha]
      · simp [hold, ha]
    · by_cases ha : ⟨0x02, 0x04, 0x02⟩ = p.answer
      · simp [hold, ← ha]
      · simp [hold, ha]

theorem starts_ends {r : Except Error MediaReady} (h : Ends clock past τ r) :
    starts τ ≤ if ⟨0x02, 0x04, 0x02⟩ ∈ answers past then 0 else 1 := by
  have hstarts {a : ScsiSense} (hs : Starts past a) : ⟨0x02, 0x04, 0x02⟩ ∉ answers past :=
    hs.1 ▸ hs.2
  cases h with
  | ready => simp [starts]
  | atOnce => simp [starts]
  | stalled => simp [starts]
  | deadPoll => simp [starts]
  | deadStart _ _ hs _ => simp [starts, hstarts hs]
  | @stopped o answer τ₀ t e _ _ hstart _ =>
    have hτ : starts (polled o :: (τ₀ ++ [clockRead t, waited (.error e)])) = starts τ₀ := by
      simp [starts]
    rw [hτ, starts_start hstart]
    split_ifs with hs hmem
    · exact absurd hmem (hstarts hs)
    · exact le_rfl
    · exact le_rfl
    · exact Nat.zero_le 1

def heardIn : Event Scsi → Option ScsiSense
  | ⟨.execute cdb _ data _, o⟩ =>
    if cdb ≠ [scsiTestUnitReady, 0, 0, 0, 0, 0] then none
    else match (o : Outcome data.length).result with
      | .ok r => if r.status = 0 then none else some (.fromBuf r.sense)
      | .error e => e.sense.map ScsiSense.fromBuf
  | _ => none

def heard (τ : List (Event Scsi)) : List ScsiSense := τ.filterMap heardIn

theorem heardIn_polled_iff {o : Outcome 0} :
    heardIn (polled o) = some answer ↔ Unready o answer := by
  have heq : heardIn (polled o) = match o.result with
      | .ok r => if r.status = 0 then none else some (ScsiSense.fromBuf r.sense)
      | .error e => e.sense.map ScsiSense.fromBuf := rfl
  rw [heq]
  unfold Unready
  rcases o.result with e | r
  · simp [Option.map_eq_some_iff, eq_comm]
  · by_cases hs : r.status = 0 <;> simp [hs, eq_comm]

theorem heardIn_polled_none_iff {o : Outcome 0} :
    heardIn (polled o) = none ↔ ∀ answer, ¬ Unready o answer := by
  simp only [Option.eq_none_iff_forall_ne_some, ne_eq, heardIn_polled_iff]

@[simp] theorem heardIn_started {o : Outcome 0} : heardIn (started o) = none := rfl

@[simp] theorem heardIn_clockRead {t : ℕ} : heardIn (clockRead t) = none := rfl

@[simp] theorem heardIn_waited {p : Except ScsiError Unit} : heardIn (waited p) = none := rfl

theorem not_ready_of_unready {o : Outcome 0} (h : Unready o answer) : ¬ Ready o := by
  rintro ⟨r, hr, hs⟩
  rcases h with ⟨r', hr', hs', -⟩ | ⟨e, sense, he, -⟩
  · exact hs' (Except.ok.inj (hr'.symm.trans hr) ▸ hs)
  · cases hr.symm.trans he

theorem heard_start (h : Start past answer τ) : heard τ = [] := by cases h <;> rfl

theorem heard_passes {p : Pending} (h : Passes clock past p τ) : heard τ = [p.answer] := by
  obtain ⟨ho, -, hstart, -⟩ := h
  have := heard_start hstart
  unfold heard at this ⊢
  rw [List.filterMap_cons_some (heardIn_polled_iff.mpr ho), List.filterMap_append, this]
  rfl

theorem heard_waits (h : Waits clock past τ) : heard τ = answers past := by
  induction h with
  | nil => rfl
  | @snoc past p τ₁ τ₂ _ hp ih =>
    have happend : heard (τ₁ ++ τ₂) = heard τ₁ ++ heard τ₂ := List.filterMap_append
    rw [happend, ih, heard_passes hp, answers_snoc]

/-- A poll that is waited out completes no run of empty answers. -/
theorem not_emptyRun_waits (h : Waits clock past τ) :
    ¬ (EmptyRun (answers past) ∧ ⟨0x02, 0x04, 0x01⟩ ∉ answers past) := by
  rintro ⟨hrun, hseen⟩
  cases h with
  | nil => exact absurd (emptyRun_iff.mp hrun) (by decide)
  | snoc _ hp =>
    obtain ⟨-, hnone, -⟩ := hp
    rw [answers_snoc] at hrun hseen
    exact hnone _ (.noMedium hrun fun hmem => hseen (List.mem_append_left _ hmem))

theorem polled_inj {o o' : Outcome 0} : polled o = polled o' ↔ o = o' :=
  ⟨fun h => by cases h; rfl, fun h => h ▸ rfl⟩

def pollsIn (τ : List (Event Scsi)) : List (Event Scsi) := τ.filter (IsPoll ·)

theorem pollsIn_append (τ₁ τ₂ : List (Event Scsi)) :
    pollsIn (τ₁ ++ τ₂) = pollsIn τ₁ ++ pollsIn τ₂ := List.filter_append ..

theorem polled_mem_pollsIn {o : Outcome 0} : polled o ∈ pollsIn τ ↔ polled o ∈ τ := by
  simp [pollsIn]

theorem pollsIn_start (h : Start past answer τ) : pollsIn τ = [] := by
  cases h <;> simp [pollsIn]

theorem pollsIn_waitedOut (o : Outcome 0) (τ : List (Event Scsi)) (t : ℕ)
    (p : Except ScsiError Unit) :
    pollsIn (polled o :: (τ ++ [clockRead t, waited p])) = polled o :: pollsIn τ := by
  simp [pollsIn]

theorem pollsIn_passes {p : Pending} (h : Passes clock past p τ) :
    ∃ o, pollsIn τ = [polled o] ∧ Unready o p.answer := by
  obtain ⟨ho, -, hstart, -⟩ := h
  exact ⟨_, by rw [pollsIn_waitedOut, pollsIn_start hstart], ho⟩

/-- The ending is one poll, and it is ready when that is answered GOOD. -/
theorem pollsIn_ends {r : Except Error MediaReady} (h : Ends clock past τ r) :
    ∃ o, pollsIn τ = [polled o] ∧ (r = .ok .ready ↔ Ready o) := by
  have hsenseless {o : Outcome 0} {e : ScsiError} (he : Senseless o e) : ¬ Ready o := by
    rintro ⟨r, hr, -⟩
    cases he.1.symm.trans hr
  cases h with
  | @ready o ho => exact ⟨o, by simp [pollsIn], iff_of_true rfl ho⟩
  | @atOnce o answer m ho hm =>
    refine ⟨o, by simp [pollsIn], iff_of_false ?_ (not_ready_of_unready ho)⟩
    rintro ⟨⟩
    cases hm
  | @stalled o answer t ho =>
    exact ⟨o, by simp [pollsIn], iff_of_false nofun (not_ready_of_unready ho)⟩
  | @deadPoll o e he => exact ⟨o, by simp [pollsIn], iff_of_false nofun (hsenseless he)⟩
  | @deadStart o _ _ _ _ ho =>
    exact ⟨o, by simp [pollsIn], iff_of_false nofun (not_ready_of_unready ho)⟩
  | @stopped o _ τ₀ t e ho _ hstart =>
    exact ⟨o, by rw [pollsIn_waitedOut, pollsIn_start hstart],
      iff_of_false nofun (not_ready_of_unready ho)⟩

theorem not_ready_waits (h : Waits clock past τ) {o : Outcome 0} (hmem : polled o ∈ τ) :
    ¬ Ready o := by
  induction h with
  | nil => cases hmem
  | snoc _ hp ih =>
    rcases List.mem_append.mp hmem with hmem | hmem
    · exact ih hmem
    · obtain ⟨o', hpolls, ho⟩ := pollsIn_passes hp
      rw [← polled_mem_pollsIn, hpolls, List.mem_singleton, polled_inj] at hmem
      exact hmem ▸ not_ready_of_unready ho

theorem atOnce_noMedium_iff : AtOnce past answer .noMedium ↔
    EmptyRun (answers past ++ [answer]) ∧ ⟨0x02, 0x04, 0x01⟩ ∉ answers past ++ [answer] := by
  constructor
  · rintro ⟨hrun, hseen⟩
    refine ⟨hrun, fun hmem => ?_⟩
    rcases List.mem_append.mp hmem with hmem | hmem
    · exact hseen hmem
    · obtain rfl := List.mem_singleton.mp hmem
      exact absurd hrun.last (by decide)
  · rintro ⟨hrun, hseen⟩
    exact .noMedium hrun fun hmem => hseen (List.mem_append_left _ hmem)

theorem AtOnce.eq_noMedium {m : MediaReady} (h : AtOnce past answer m)
    (h' : AtOnce past answer .noMedium) : m = .noMedium := by
  obtain ⟨hrun, -⟩ := h'
  obtain ⟨hkey, hasc⟩ := hrun.last
  rcases h with _ | ⟨-, hasc'⟩ | ⟨hlo, -⟩
  · rfl
  · exact absurd (hasc.symm.trans hasc') (by decide)
  · rw [hkey] at hlo
    exact absurd hlo (by decide)

theorem heard_waitedOut {o : Outcome 0} (ho : Unready o answer) (hτ : heard τ = []) :
    heard (polled o :: τ) = [answer] := by
  unfold heard at hτ ⊢
  rw [List.filterMap_cons_some (heardIn_polled_iff.mpr ho), hτ]

theorem heard_ends {r : Except Error MediaReady} (h : Ends clock past τ r) :
    (heard τ = [] ∧ r ≠ .ok .noMedium) ∨
      ∃ answer, heard τ = [answer] ∧ (r = .ok .noMedium ↔ AtOnce past answer .noMedium) := by
  have hnone {o : Outcome 0} (ho : ∀ a, ¬ Unready o a) : heard [polled o] = [] := by
    rw [heard, List.filterMap_cons_none (heardIn_polled_none_iff.mpr ho)]
    rfl
  cases h with
  | ready ho => exact .inl ⟨hnone fun a ha => not_ready_of_unready ha ho, nofun⟩
  | deadPoll he =>
    refine .inl ⟨hnone fun a ha => ?_, nofun⟩
    rcases ha with ⟨r, hr, -⟩ | ⟨e, sense, hr, hsense, -⟩
    · cases he.1.symm.trans hr
    · obtain rfl := Except.error.inj (he.1.symm.trans hr)
      cases he.2.symm.trans hsense
  | atOnce ho hm =>
    refine .inr ⟨_, heard_waitedOut ho rfl, ?_⟩
    rw [Except.ok.injEq]
    exact ⟨fun heq => heq ▸ hm, hm.eq_noMedium⟩
  | stalled ho hnone => exact .inr ⟨_, heard_waitedOut ho rfl, iff_of_false nofun (hnone _)⟩
  | deadStart ho hnone => exact .inr ⟨_, heard_waitedOut ho rfl, iff_of_false nofun (hnone _)⟩
  | stopped ho hnone hstart =>
    refine .inr ⟨_, heard_waitedOut ho ?_, iff_of_false nofun (hnone _)⟩
    have := heard_start hstart
    unfold heard at this ⊢
    rw [List.filterMap_append, this]
    rfl

/-- The poll decides by its rule, and what follows from it: the drive is ready when a poll is
answered GOOD, and empty when the answers complete a run before it was ever becoming ready;
START STOP UNIT is sent at most once. -/
theorem awaitMediaReady_spec (fuel : ℕ) (clock : Clock) (τ : List (Event Scsi))
    (r : Except Error MediaReady) :
    (Run (awaitMediaReady fuel clock).run τ r ↔ ∃ t past τ₁ τ₂, past.length < fuel ∧
      τ = clockRead t :: (τ₁ ++ τ₂) ∧ Waits clock past τ₁ ∧ Ends clock past τ₂ r) ∧
    (Run (awaitMediaReady fuel clock).run τ r →
      (r = .ok .ready ↔ ∃ o, polled o ∈ τ ∧ Ready o) ∧
      (r = .ok .noMedium ↔ EmptyRun (heard τ) ∧ ⟨0x02, 0x04, 0x01⟩ ∉ heard τ) ∧
      starts τ ≤ 1) := by
  refine ⟨run_awaitMediaReady_iff, fun h => ?_⟩
  obtain ⟨t, past, τ₁, τ₂, -, rfl, hwaits, hends⟩ := run_awaitMediaReady_iff.mp h
  refine ⟨?_, ?_, ?_⟩
  · obtain ⟨o, hpolls, ho⟩ := pollsIn_ends hends
    rw [ho]
    constructor
    · have hmem : polled o ∈ τ₂ :=
        polled_mem_pollsIn.mp (by rw [hpolls]; exact List.mem_singleton_self _)
      exact fun hready => ⟨o, List.mem_cons_of_mem _ (List.mem_append_right _ hmem), hready⟩
    · rintro ⟨o', hmem, hready⟩
      rcases List.mem_append.mp ((List.mem_cons.mp hmem).resolve_left nofun) with hmem | hmem
      · exact absurd hready (not_ready_waits hwaits hmem)
      · rw [← polled_mem_pollsIn, hpolls, List.mem_singleton, polled_inj] at hmem
        exact hmem ▸ hready
  · have hheard : heard (clockRead t :: (τ₁ ++ τ₂)) = answers past ++ heard τ₂ := by
      rw [← heard_waits hwaits]
      exact List.filterMap_append
    rw [hheard]
    rcases heard_ends hends with ⟨hnone, hne⟩ | ⟨answer, hone, hiff⟩
    · rw [hnone, List.append_nil]
      exact iff_of_false hne (not_emptyRun_waits hwaits)
    · rw [hone, hiff, atOnce_noMedium_iff]
  · have happend : starts (clockRead t :: (τ₁ ++ τ₂)) = starts τ₁ + starts τ₂ :=
      List.countP_append
    have := starts_ends hends
    rw [happend, starts_waits hwaits]
    split_ifs at this ⊢ <;> omega

end Poll

theorem awaitMediaReady_spec_ready : ∃ τ, Run (awaitMediaReady 1 0).run τ (.ok .ready) ∧
    (∃ o, polled o ∈ τ ∧ Ready o) ∧ starts τ ≤ 1 := by
  let o : Outcome 0 := ⟨.ok ⟨0, 0, Vector.replicate 32 0⟩, #v[]⟩
  have ho : Ready o := ⟨_, rfl, rfl⟩
  have hrun : Run (awaitMediaReady 1 0).run [clockRead 0, polled o] (.ok .ready) :=
    (awaitMediaReady_spec 1 0 _ _).1.mpr
      ⟨0, [], [], [polled o], Nat.zero_lt_one, rfl, .nil, .ready ho⟩
  obtain ⟨hready, -, hstarts⟩ := (awaitMediaReady_spec 1 0 _ _).2 hrun
  exact ⟨_, hrun, hready.mp rfl, hstarts⟩
end FreemkvUnlock.Ld
