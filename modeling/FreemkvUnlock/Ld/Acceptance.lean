import FreemkvUnlock.Interaction.History
import FreemkvUnlock.Ld.Discipline

/-! # Accepted uploads

The silence after an upload should follow an image that the drive took. The driver tells an
upload that went through from one that did not by the error it ended with: the senses of a
restarting drive count as a restart also when it is the image itself that they answer, and a
status with which the image came back is not looked at.
-/

namespace FreemkvUnlock.Ld

open Interaction Fallible

def imageCdb (mt : Mt1959) : List UInt8 :=
  if mt.mode = modeA then uploadCdb scsiWriteBuffer 0x06 mt.profile.firmware.length
  else uploadCdb scsiModeSelect 0x10 mt.profile.firmware.length

def dataOut (mt : Mt1959) : Op := .execute (imageCdb mt) .toDevice mt.profile.firmware 30000

def sent (mt : Mt1959) (o : Outcome mt.profile.firmware.length) : Event Scsi := ⟨dataOut mt, o⟩

/-- The drive took the image. -/
def Accepted (mt : Mt1959) (e : Event Scsi) : Prop :=
  ∃ o r, e = sent mt o ∧ o.result = .ok r ∧ r.status = 0

/-- The image came back with a status other than GOOD. -/
def Overlooked (mt : Mt1959) (e : Event Scsi) : Prop :=
  ∃ o r, e = sent mt o ∧ o.result = .ok r ∧ r.status ≠ 0

/-- The image, or the critical span around it, was refused with the sense of a restarting drive. -/
def Refused (mt : Mt1959) (e : Event Scsi) : Prop :=
  ∃ err : ScsiError, isRestartSense (.ofScsiError err) = true ∧
    (e = ⟨.beginCritical, .error err⟩ ∨ ∃ o, e = sent mt o ∧ o.result = .error err)

/-- An upload is begun: its critical span is asked for, or its image is sent. -/
def Uploads (mt : Mt1959) (e : Event Scsi) : Prop := e.1 = .beginCritical ∨ e.1 = dataOut mt

/-- The image of the last upload was taken. -/
abbrev Taken (mt : Mt1959) : List (Event Scsi) → Prop := Since (Accepted mt) (Uploads mt)

/-- Each silence after an upload follows an upload that was taken. -/
def SettlesAccepted (mt : Mt1959) (τ : List (Event Scsi)) : Prop :=
  ∀ pre p post, τ = pre ++ ⟨.pause uploadSettleMs, p⟩ :: post → Taken mt pre

/-- A silence that follows no upload that was taken, whatever came before. -/
def SettlesRefused (mt : Mt1959) (τ : List (Event Scsi)) : Prop :=
  ∃ pre p post, τ = pre ++ ⟨.pause uploadSettleMs, p⟩ :: post ∧ ∀ ρ, ¬ Taken mt (ρ ++ pre)

section Upload

variable {mt mt' t : Mt1959} {τ τ₁ τ₂ : List (Event Scsi)} {r : Except Error Unit} {e : Event Scsi}

theorem uploads_sent {o : Outcome _} : Uploads mt (sent mt o) := .inr rfl

theorem not_uploads_of_isUnlockRead (h : IsUnlockRead e) : ¬ Uploads mt e := by
  obtain ⟨o, a⟩ := e
  rintro (rfl | rfl)
  · exact h
  · exact nomatch h.2.1

/-- Follow-ups wait five seconds and not thirty. -/
theorem not_uploads_of_timeout {cdb data : List UInt8} {dir : DataDirection} {o : Outcome _} :
    ¬ Uploads mt ⟨.execute cdb dir data 5000, o⟩ := by
  rintro (h | h)
  · cases h
  · exact absurd (Op.execute.inj h).2.2.2 (by decide)

theorem run_critical {x : Step Unit} (h : Run (critical x).run τ r) :
    (∃ err, τ = [⟨.beginCritical, .error err⟩] ∧ r = .error (.ofScsiError err)) ∨
      ∃ τ', τ = ⟨.beginCritical, .ok ()⟩ :: (τ' ++ [⟨.endCritical, ()⟩]) ∧ Run x.run τ' r := by
  obtain ⟨τ₁, b, τ₂, rfl, h₁, h₂⟩ := run_bind_iff.mp h
  obtain rfl := run_ask_iff.mp h₁
  rcases b with err | ⟨⟩
  · obtain ⟨rfl, rfl⟩ := run_pure_iff.mp h₂
    exact .inl ⟨err, rfl, rfl⟩
  · obtain ⟨τ₃, r', τ₄, rfl, h₃, h₄⟩ := run_bind_iff.mp h₂
    obtain ⟨τ₅, u, τ₆, rfl, h₅, h₆⟩ := run_bind_iff.mp h₄
    obtain ⟨rfl, rfl⟩ := run_pure_iff.mp h₆
    obtain rfl := run_ask_iff.mp h₅
    exact .inr ⟨τ₃, rfl, h₃⟩

theorem run_upload {opcode mode : UInt8} {rest : Step Unit}
    (hcdb : imageCdb mt = uploadCdb opcode mode mt.profile.firmware.length)
    (h : Run (upload opcode mode mt.profile.firmware >>= fun _ => rest).run τ r) :
    ∃ o, (∃ err, o.result = .error err ∧ r = .error (.ofScsiError err) ∧ τ = [sent mt o]) ∨
      ∃ s τ', o.result = .ok s ∧ τ = sent mt o :: τ' ∧ Run rest.run τ' r := by
  have hsent (o : Outcome mt.profile.firmware.length) :
      sent mt o = ⟨.execute (uploadCdb opcode mode mt.profile.firmware.length) .toDevice
        mt.profile.firmware 30000, o⟩ := by
    rw [← hcdb]
    rfl
  simp only [hsent]
  rcases run_fallible_bind_iff.mp h with ⟨e, rfl, h₁⟩ | ⟨τ₁, _, τ₂, rfl, h₁, h₂⟩
  · rcases run_fallible_bind_iff.mp h₁ with ⟨e', he, h₃⟩ | ⟨τ₃, _, τ₄, rfl, h₃, h₄⟩
    · obtain rfl := Except.error.inj he
      obtain ⟨o, rfl, ho⟩ := run_issue_iff.mp h₃
      rcases hr : o.result with err | s <;> rw [hr] at ho
      · exact ⟨o, .inl ⟨err, hr, congrArg _ (Except.error.inj ho), rfl⟩⟩
      · cases ho
    · cases (run_fallible_pure_iff.mp h₄).2
  · obtain ⟨τ₃, _, τ₄, rfl, h₃, h₄⟩ := run_fallible_bind_ok_iff.mp h₁
    obtain ⟨rfl, -⟩ := run_fallible_pure_iff.mp h₄
    obtain ⟨o, rfl, ho⟩ := run_issue_iff.mp h₃
    rcases hr : o.result with err | s <;> rw [hr] at ho
    · cases ho
    · exact ⟨o, .inr ⟨s, τ₂, hr, rfl, h₂⟩⟩

/-- What an upload sends and how it can end: there is nothing to send, the span or the image is
refused, or the rest follows an image that came back. -/
inductive Loads (mt : Mt1959) : List (Event Scsi) → Except Error Unit → Prop
  | empty : Loads mt [] (.error .unlockFailed)
  | span (err : ScsiError) : Loads mt [⟨.beginCritical, .error err⟩] (.error (.ofScsiError err))
  | image {o : Outcome mt.profile.firmware.length} {err : ScsiError} (h : o.result = .error err) :
      Loads mt [⟨.beginCritical, .ok ()⟩, sent mt o, ⟨.endCritical, ()⟩] (.error (.ofScsiError err))
  | back {o : Outcome mt.profile.firmware.length} {s : ScsiResult} {post : List (Event Scsi)}
      {r : Except Error Unit} (h : o.result = .ok s) (hpost : ∀ e ∈ post, ¬ Uploads mt e) :
      Loads mt (⟨.beginCritical, .ok ()⟩ :: sent mt o :: post) r

theorem loads_of_run {opcode mode : UInt8} {rest : Step Unit} {reads : Driver Unit}
    (hcdb : imageCdb mt = uploadCdb opcode mode mt.profile.firmware.length)
    (hrest : Issues (fun e => ¬ Uploads mt e) rest.run)
    (hreads : ∀ t, Issues IsUnlockRead (reads.prog t))
    (h : Run (Stateful.prog (Stateful.lift
      (critical (upload opcode mode mt.profile.firmware >>= fun _ => rest)) >>= fun _ => reads)
        mt) τ (r, mt')) : Loads mt τ r := by
  have hspan {ρ : List (Event Scsi)} {u : Except Error Unit}
      (h : Run (critical (upload opcode mode mt.profile.firmware >>= fun _ => rest)).run ρ u) :
      (∃ e, u = .error e ∧ Loads mt ρ u) ∨
        ∃ o s post, o.result = .ok s ∧ ρ = ⟨.beginCritical, .ok ()⟩ :: sent mt o :: post ∧
          ∀ e ∈ post, ¬ Uploads mt e := by
    rcases run_critical h with ⟨err, rfl, rfl⟩ | ⟨τ', rfl, hbody⟩
    · exact .inl ⟨_, rfl, .span err⟩
    · obtain ⟨o, ⟨err, ho, rfl, rfl⟩ | ⟨s, τ₂, ho, rfl, h₂⟩⟩ := run_upload hcdb hbody
      · exact .inl ⟨_, rfl, .image ho⟩
      · refine .inr ⟨o, s, τ₂ ++ [⟨.endCritical, ()⟩], ho, rfl, ?_⟩
        refine List.forall_mem_append.mpr ⟨hrest h₂, List.forall_mem_singleton.mpr ?_⟩
        rintro (h | h) <;> cases h
  rcases Stateful.run_bind_iff.mp h with ⟨e, rfl, h₁⟩ | ⟨τ₁, _, t, τ₂, rfl, h₁, h₂⟩
  · rcases hspan (Stateful.run_lift_iff.mp h₁).1 with ⟨_, -, hload⟩ | ⟨o, s, post, ho, rfl, hpost⟩
    · exact hload
    · exact .back ho hpost
  · rcases hspan (Stateful.run_lift_iff.mp h₁).1 with ⟨_, he, -⟩ | ⟨o, s, post, ho, rfl, hpost⟩
    · cases he
    · exact .back ho (List.forall_mem_append.mpr ⟨hpost, fun e he =>
        not_uploads_of_isUnlockRead (hreads t h₂ e he)⟩)

theorem loads_loadFirmware (h : Run (loadFirmware.prog mt) τ (r, mt')) : Loads mt τ r := by
  replace h := Stateful.run_get_bind_iff.mp h
  have hensure {c : Prop} [Decidable c] {x : Driver Unit}
      (h : Run (Stateful.prog (Stateful.lift (ensure c .unlockFailed) >>= fun _ => x) mt) τ
        (r, mt')) : Loads mt τ r ∨ Run (x.prog mt) τ (r, mt') := by
    rcases Stateful.run_bind_iff.mp h with ⟨e, rfl, h₁⟩ | ⟨τ₁, _, t, τ₂, rfl, h₁, h₂⟩
    · obtain ⟨rfl, he⟩ := run_ensure_iff.mp (Stateful.run_lift_iff.mp h₁).1
      split_ifs at he
      obtain rfl := Except.error.inj he
      exact .inl .empty
    · obtain ⟨hensure, rfl⟩ := Stateful.run_lift_iff.mp h₁
      obtain ⟨rfl, -⟩ := run_ensure_ok_iff.mp hensure
      exact .inr h₂
  split_ifs at h with hmode
  · replace h := Stateful.run_get_bind_iff.mp h
    refine (hensure h).elim id fun h => loads_of_run (if_pos hmode)
      (issues_traceStep fun _ => not_uploads_of_timeout) (fun t => issues_unlockTwice) h
  · replace h := Stateful.run_get_bind_iff.mp h
    refine (hensure h).elim id fun h => loads_of_run (if_neg hmode)
      (.seq (issues_traceStep fun _ => not_uploads_of_timeout) fun _ =>
        .seq (issues_traceStep fun _ => not_uploads_of_timeout) fun _ =>
        issues_traceStep fun _ => not_uploads_of_timeout) (fun t => issues_unlockRetries 5) h

theorem Loads.of_target (ht : t.target = mt.target) (h : Loads t τ r) : Loads mt τ r := by
  obtain ⟨profile, mode, bufferId, _, _, _⟩ := mt
  obtain ⟨rfl, ht⟩ := Prod.mk.inj ht
  obtain ⟨rfl, rfl⟩ := Prod.mk.inj ht
  cases h with
  | empty => exact .empty
  | span err => exact .span err
  | image h => exact .image h
  | back h hpost => exact .back h hpost

/-! ## What an upload shows -/

theorem uploads_of_refused (h : Refused mt e) : Uploads mt e := by
  obtain ⟨err, -, rfl | ⟨o, rfl, -⟩⟩ := h
  · exact .inl rfl
  · exact uploads_sent

theorem not_accepted_beginCritical {b : Except ScsiError Unit} :
    ¬ Accepted mt ⟨.beginCritical, b⟩ := by
  rintro ⟨o, s, h, -⟩
  cases h

/-- An upload that counts as one was taken, unless the drive refused it or a status was
overlooked. -/
theorem Loads.taken (h : Loads mt τ r) (hr : Restarts r)
    (hτ : ∀ e ∈ τ, ¬ Refused mt e ∧ ¬ Overlooked mt e) : Taken mt τ := by
  cases h with
  | empty => cases hr
  | span err => exact absurd ⟨err, hr, .inl rfl⟩ (hτ _ List.mem_cons_self).1
  | @image o err ho => exact absurd ⟨err, hr, .inr ⟨o, rfl, ho⟩⟩ (hτ (sent mt o) (by simp)).1
  | @back o s post _ ho hpost =>
    refine ⟨[⟨.beginCritical, .ok ()⟩], sent mt o, post, rfl, ⟨o, s, rfl, ho, ?_⟩, hpost⟩
    exact Classical.byContradiction fun hs => (hτ (sent mt o) (by simp)).2 ⟨o, s, rfl, ho, hs⟩

/-- A refusal with the sense of a restarting drive counts as an upload, and nothing was taken. -/
theorem Loads.refused (h : Loads mt τ r) (he : ∃ e ∈ τ, Refused mt e) :
    Restarts r ∧ ∀ ρ, ¬ Taken mt (ρ ++ τ) := by
  obtain ⟨e, he, hrefused⟩ := he
  have hlast {ρ : List (Event Scsi)} (hnone : ∀ e ∈ τ, ¬ Accepted mt e)
      (hsome : ∃ e ∈ τ, Uploads mt e) : ¬ Taken mt (ρ ++ τ) := by
    intro hs
    rcases hs.append_cases with ⟨-, hno⟩ | ⟨pre, e, post, rfl, ha, -⟩
    · obtain ⟨e, he, hu⟩ := hsome
      exact hno e he hu
    · exact hnone e (by simp) ha
  cases h with
  | empty => cases he
  | span err =>
    obtain rfl := List.mem_singleton.mp he
    obtain ⟨err', hsense, heq | ⟨o, heq, -⟩⟩ := hrefused
    · cases heq
      exact ⟨hsense, fun ρ => hlast (by simpa using not_accepted_beginCritical)
        ⟨_, List.mem_cons_self, .inl rfl⟩⟩
    · cases heq
  | @image o err ho =>
    have hnone : ∀ e ∈ [⟨.beginCritical, .ok ()⟩, sent mt o, ⟨.endCritical, ()⟩],
        ¬ Accepted mt e := by
      simp only [List.mem_cons, List.not_mem_nil, or_false]
      rintro _ (rfl | rfl | rfl) ⟨o', s, heq, hs, -⟩
      · cases heq
      · cases heq
        cases ho.symm.trans hs
      · cases heq
    refine ⟨?_, fun ρ => hlast hnone ⟨sent mt o, by simp, uploads_sent⟩⟩
    simp only [List.mem_cons, List.not_mem_nil, or_false] at he
    obtain ⟨err', hsense, heq | ⟨o', heq, ho'⟩⟩ := hrefused
    · rcases he with rfl | rfl | rfl <;> cases heq
    · rcases he with rfl | rfl | rfl <;> cases heq
      obtain rfl := Except.error.inj (ho.symm.trans ho')
      exact hsense
  | @back o s post _ ho hpost =>
    obtain ⟨err', -, heq | ⟨o', heq, ho'⟩⟩ := id hrefused
    · rcases List.mem_cons.mp he with rfl | he
      · cases heq
      rcases List.mem_cons.mp he with rfl | he
      · cases heq
      · exact absurd (uploads_of_refused hrefused) (hpost e he)
    · rcases List.mem_cons.mp he with rfl | he
      · cases heq
      rcases List.mem_cons.mp he with rfl | he
      · cases heq
        cases ho.symm.trans ho'
      · exact absurd (uploads_of_refused hrefused) (hpost e he)

end Upload

/-! ## Runs -/

section Runs

variable {mt mt' t : Mt1959} {fuel : ℕ} {τ τ₁ τ₂ : List (Event Scsi)} {r : Except Error Unit}
  {e : Event Scsi}

def NoSettle (e : Event Scsi) : Prop := ∀ p, e ≠ ⟨.pause uploadSettleMs, p⟩

theorem not_uploads_of_quiet (h : ReadCall e ∨ PollCall e) : ¬ Uploads mt e ∧ NoSettle e := by
  obtain ⟨o, a⟩ := e
  have hexecute {cdb : List UInt8} {ms : ℕ} (h : o = .execute cdb .none [] ms) :
      ¬ Uploads mt ⟨o, a⟩ ∧ NoSettle ⟨o, a⟩ := by
    obtain rfl := h
    refine ⟨?_, ?_⟩
    · rintro (h | h)
      · cases h
      · exact absurd (Op.execute.inj h).2.1 (by decide)
    · rintro p h
      cases h
  have hhost (h : o = .now ∨ o = .pause reconfirmSensePauseMs ∨ o = .pause readyPollMs) :
      ¬ Uploads mt ⟨o, a⟩ ∧ NoSettle ⟨o, a⟩ := by
    rcases h with rfl | rfl | rfl
    all_goals
      refine ⟨?_, ?_⟩
      · rintro (h | h) <;> cases h
      · rintro p h
        cases h
  rcases h with (h | h | h) | h | h | h | h
  · refine ⟨not_uploads_of_isUnlockRead h, ?_⟩
    rintro p ⟨⟩
    exact h
  · exact hhost (.inl h)
  · exact hhost (.inr (.inl h))
  · exact hexecute h
  · exact hexecute h
  · exact hhost (.inl h)
  · exact hhost (.inr (.inr h))

theorem noSettle_of_loadCall (h : LoadCall e) : NoSettle e := by
  rintro p rfl
  rcases h with h | h | h | h | h
  · cases h
  · cases h
  · exact h
  · exact h
  · exact h

theorem SettlesAccepted.of_noSettle (h : ∀ e ∈ τ, NoSettle e) : SettlesAccepted mt τ := by
  rintro pre p post rfl
  exact absurd rfl (h _ (by simp) p)

theorem SettlesAccepted.append (h₁ : ∀ e ∈ τ₁, NoSettle e) (h₂ : SettlesAccepted mt τ₂) :
    SettlesAccepted mt (τ₁ ++ τ₂) := by
  intro pre p post hsplit
  rcases split_append hsplit with ⟨mid, rfl, -⟩ | ⟨mid, rfl, hmid⟩
  · exact absurd rfl (h₁ _ (by simp) p)
  · exact (h₂ mid p post hmid).prepend τ₁

theorem SettlesAccepted.settle {clock : ℕ} {p : Except ScsiError Unit}
    (h₁ : ∀ e ∈ τ₁, NoSettle e) (htaken : Taken mt τ₁) (h₂ : SettlesAccepted mt τ₂) :
    SettlesAccepted mt (τ₁ ++ ⟨.now, clock⟩ :: ⟨.pause uploadSettleMs, p⟩ :: τ₂) := by
  intro pre p' post hsplit
  have hnow : ¬ Uploads mt ⟨.now, clock⟩ := by rintro (h | h) <;> cases h
  rcases split_append hsplit with ⟨mid, rfl, -⟩ | ⟨mid, rfl, hmid⟩
  · exact absurd rfl (h₁ _ (by simp) p')
  rcases List.cons_eq_append_iff.mp hmid with ⟨-, h⟩ | ⟨mid', rfl, h⟩
  · cases (List.cons.inj h).1
  rcases List.cons_eq_append_iff.mp h with ⟨rfl, -⟩ | ⟨mid'', rfl, h⟩
  · exact htaken.concat hnow
  · have hlater := h₂ mid'' p' post (List.cons.inj h).2
    have hall := hlater.prepend (τ₁ ++ [⟨.now, clock⟩, ⟨.pause uploadSettleMs, p⟩])
    rwa [List.append_assoc] at hall

theorem SettlesRefused.prepend (h : SettlesRefused mt τ) (ρ : List (Event Scsi)) :
    SettlesRefused mt (ρ ++ τ) := by
  obtain ⟨pre, p, post, rfl, hno⟩ := h
  exact ⟨ρ ++ pre, p, post, by simp, fun σ => by simpa using hno (σ ++ ρ)⟩

theorem SettlesRefused.not_accepted (h : SettlesRefused mt τ) : ¬ SettlesAccepted mt τ := by
  obtain ⟨pre, p, post, rfl, hno⟩ := h
  exact fun ha => hno [] (ha pre p post rfl)

/-- The silence that follows an upload which was refused. -/
theorem settlesRefused_settle {clock : ℕ} {p : Except ScsiError Unit}
    (h : ∀ ρ, ¬ Taken mt (ρ ++ τ₁)) :
    SettlesRefused mt (τ₁ ++ ⟨.now, clock⟩ :: ⟨.pause uploadSettleMs, p⟩ :: τ₂) := by
  refine ⟨τ₁ ++ [⟨.now, clock⟩], p, τ₂, by simp, fun ρ hs => ?_⟩
  rw [← List.append_assoc] at hs
  rcases hs.append_cases with ⟨hs, -⟩ | ⟨pre, e, post, heq, ⟨o, s, rfl, -⟩, -⟩
  · exact h ρ hs
  · have hmem : sent mt o ∈ [(⟨.now, clock⟩ : Event Scsi)] := by simp [heq]
    cases List.mem_singleton.mp hmem

structure Attempts (mt : Mt1959) (τ : List (Event Scsi)) : Prop where
  accepted : (∀ e ∈ τ, ¬ Refused mt e ∧ ¬ Overlooked mt e) → SettlesAccepted mt τ
  refused : (∃ e ∈ τ, Refused mt e) → SettlesRefused mt τ

theorem Attempts.of_quiet (h : ∀ e ∈ τ, ReadCall e ∨ PollCall e) : Attempts mt τ where
  accepted _ := .of_noSettle fun e he => (@not_uploads_of_quiet mt e (h e he)).2
  refused := fun ⟨e, he, hr⟩ =>
    absurd (uploads_of_refused hr) (not_uploads_of_quiet (h e he)).1

theorem Attempts.quiet_append (h₁ : ∀ e ∈ τ₁, ReadCall e ∨ PollCall e) (h₂ : Attempts mt τ₂) :
    Attempts mt (τ₁ ++ τ₂) where
  accepted h := .append (fun e he => (@not_uploads_of_quiet mt e (h₁ e he)).2)
    (h₂.accepted fun e he => h e (List.mem_append_right _ he))
  refused := by
    rintro ⟨e, he, hr⟩
    rcases List.mem_append.mp he with he | he
    · exact absurd (uploads_of_refused hr) (not_uploads_of_quiet (h₁ e he)).1
    · exact (h₂.refused ⟨e, he, hr⟩).prepend τ₁

theorem Attempts.of_failed {load : List (Event Scsi)} {loaded : Except Error Unit}
    (hload : Loads mt load loaded) (hcalls : ∀ e ∈ load, NoSettle e) (hr : ¬ Restarts loaded)
    (h : Attempts mt τ) : Attempts mt (load ++ τ) where
  accepted hno := .append hcalls (h.accepted fun e he => hno e (List.mem_append_right _ he))
  refused := by
    rintro ⟨e, he, hrefused⟩
    rcases List.mem_append.mp he with he | he
    · exact absurd (hload.refused ⟨e, he, hrefused⟩).1 hr
    · exact (h.refused ⟨e, he, hrefused⟩).prepend load

theorem Attempts.of_restarts {load : List (Event Scsi)} {loaded : Except Error Unit} {clock : ℕ}
    {p : Except ScsiError Unit} (hload : Loads mt load loaded)
    (hcalls : ∀ e ∈ load, NoSettle e) (hr : Restarts loaded) (h : Attempts mt τ) :
    Attempts mt (load ++ ⟨.now, clock⟩ :: ⟨.pause uploadSettleMs, p⟩ :: τ) where
  accepted hno := .settle hcalls
    (hload.taken hr fun e he => hno e (List.mem_append_left _ he))
    (h.accepted fun e he => hno e (by simp [he]))
  refused := by
    rintro ⟨e, he, hrefused⟩
    rcases List.mem_append.mp he with he | he
    · exact settlesRefused_settle (hload.refused ⟨e, he, hrefused⟩).2
    rcases List.mem_cons.mp he with rfl | he
    · obtain ⟨err, -, heq | ⟨o, heq, -⟩⟩ := hrefused <;> cases heq
    rcases List.mem_cons.mp he with rfl | he
    · obtain ⟨err, -, heq | ⟨o, heq, -⟩⟩ := hrefused <;> cases heq
    · have hlater := (h.refused ⟨e, he, hrefused⟩).prepend
        (load ++ [⟨.now, clock⟩, ⟨.pause uploadSettleMs, p⟩])
      rwa [List.append_assoc] at hlater

/-- An attempt and everything after it. -/
theorem attempts_of_run (n : ℕ) : ∀ (settled : Option Clock) (lastErr : Error) (t : Mt1959)
    (τ : List (Event Scsi)), t.target = mt.target →
    Run ((initAttempts fuel n settled lastErr).prog t) τ (r, mt') → Attempts mt τ := by
  induction n with
  | zero =>
    intro settled lastErr t τ ht h
    cases settled with
    | none =>
      obtain ⟨rfl, -, -⟩ := Stateful.run_throw_iff.mp h
      exact .of_quiet nofun
    | some clock =>
      rcases @run_unlockAttempt mt mt' t fuel 0 (some clock) τ r _ h with
        ⟨hquiet, -, -⟩ | ⟨τ₁, e, t', τ₂, rfl, h₁, -, h₂⟩
      · exact .of_quiet hquiet
      · obtain ⟨rfl, -, -⟩ := Stateful.run_throw_iff.mp h₂
        exact .of_quiet (by simpa using fun e he => .inl (issues_unlockRead h₁ e he))
  | succ n ih =>
    intro settled lastErr t τ ht h
    rcases @run_unlockAttempt mt mt' t fuel 0 settled τ r _ h with
      ⟨hquiet, -, -⟩ | ⟨read, e, t₁, τ', rfl, h₁, -, h₂⟩
    · exact .of_quiet hquiet
    refine .quiet_append (fun e he => .inl (issues_unlockRead h₁ e he)) ?_
    obtain ⟨load, loaded, t₂, rest, rfl, h₃, h₄⟩ := run_reload h₂
    have ht₁ : t₁.target = mt.target := (maintains_unlockRead rfl h₁).trans ht
    have ht₂ : t₂.target = mt.target := (maintains_loadFirmware rfl h₃).trans ht₁
    have hload : Loads mt load loaded := (loads_loadFirmware h₃).of_target ht₁
    have hcalls (e : Event Scsi) (he : e ∈ load) : NoSettle e :=
      noSettle_of_loadCall (issues_loadFirmware h₃ e he)
    rcases h₄ with ⟨hno, -, rfl⟩ | ⟨hrestarts, -, clock, p, ρ, rfl, hρ⟩ | ⟨hno, -, e', h₅⟩
    · exact .of_failed hload hcalls hno (.of_quiet nofun)
    · refine .of_restarts hload hcalls hrestarts ?_
      rcases hρ with ⟨err, -, rfl, -⟩ | ⟨-, e', h₅⟩
      · exact .of_quiet nofun
      · exact ih (some clock) e' t₂ ρ ht₂ h₅
    · exact .of_failed hload hcalls hno (ih none e' t₂ rest ht₂ h₅)

end Runs

/-- As long as no image comes back with a bad status, and neither it nor its span is refused with
the sense of a restarting drive, silence follows accepted uploads only; such a refusal always
leads to a silence that no accepted upload precedes. -/
theorem runInit_settlesAccepted (mt : Mt1959) (fuel : ℕ) (τ : List (Event Scsi))
    (r : Except Error Unit) (mt' : Mt1959) (h : Run ((runInit fuel).prog mt) τ (r, mt')) :
    ((∀ e ∈ τ, ¬ Refused mt e ∧ ¬ Overlooked mt e) → SettlesAccepted mt τ) ∧
      (SettlesAccepted mt τ → ∀ e ∈ τ, ¬ Refused mt e) := by
  have hattempts : Attempts mt τ := attempts_of_run unlockAttempts _ _ mt τ rfl h
  exact ⟨hattempts.accepted, fun ha e he hr => (hattempts.refused ⟨e, he, hr⟩).not_accepted ha⟩

theorem runInit_settlesAccepted_uploaded : ∃ τ r mt',
    Run ((runInit 1).prog sampleDriver) τ (r, mt') ∧ mt'.unlocked = true ∧
    ((∀ e ∈ τ, ¬ Refused sampleDriver e ∧ ¬ Overlooked sampleDriver e) →
      SettlesAccepted sampleDriver τ) ∧
    (SettlesAccepted sampleDriver τ → ∀ e ∈ τ, ¬ Refused sampleDriver e) := by
  have hex : (exec clockedDrive ((runInit 1).prog sampleDriver) (false, 0)).any
      (fun x => x.1.2.unlocked) = true := by decide +kernel
  obtain ⟨⟨r, mt'⟩, τ, _, hrun, hunlocked⟩ := exists_run_of_any hex
  exact ⟨τ, r, mt', hrun, hunlocked, runInit_settlesAccepted sampleDriver 1 τ r mt' hrun⟩

/-- A drive that answers every command, the image too, with UNIT ATTENTION, and a host whose clock
goes forward a minute at each look. -/
def attentionDrive : Handler Scsi ℕ
  | .execute _ _ data _, t =>
    (⟨.ok ⟨2, 0, Vector.ofFn fun i => if i.val = 2 then 0x06 else 0⟩,
      Vector.replicate data.length 0⟩, t)
  | .now, t => (t, t + 60000000000)
  | .pause _, t => (.ok (), t)
  | .beginCritical, t => (.ok (), t)
  | .endCritical, t => ((), t)
  | .executeCleanup _ _ data _, t => (⟨.error ⟨0xFF, none⟩, Vector.replicate data.length 0⟩, t)
  | .fillBytes n, t => (Vector.replicate n 0, t)
  | .diagnosticMemory _ _ _, t => (.error .other, t)
  | .quietDrive, t => (.unchanged, t)

def isSettle : Event Scsi → Bool
  | ⟨.pause ms, _⟩ => ms == uploadSettleMs
  | _ => false

def isGood : Event Scsi → Bool
  | ⟨.execute _ _ _ _, o⟩ => o.result.toOption.any fun r => r.status == 0
  | _ => false

/-- The silence after an upload comes although no command of the run ever succeeded. -/
theorem runInit_not_settlesAccepted_attention : ∃ τ r mt',
    Run ((runInit 2).prog sampleDriver) τ (r, mt') ∧ ¬ SettlesAccepted sampleDriver τ := by
  have hex : (exec attentionDrive ((runInit 2).prog sampleDriver) 0).any
      (fun x => x.2.1.any isSettle && x.2.1.all fun e => !isGood e) = true := by decide +kernel
  obtain ⟨⟨r, mt'⟩, τ, _, hrun, hτ⟩ := exists_run_of_any hex
  refine ⟨τ, r, mt', hrun, fun ha => ?_⟩
  obtain ⟨hany, hbad⟩ := Bool.and_eq_true _ _ |>.mp hτ
  obtain ⟨⟨o, p⟩, hmem, hsettle⟩ := List.any_eq_true.mp hany
  obtain ⟨pre, post, rfl⟩ := List.append_of_mem hmem
  cases o with
  | pause ms =>
    obtain rfl := beq_iff_eq.mp hsettle
    obtain ⟨before, e, after, rfl, ⟨o, s, rfl, ho, hs⟩, -⟩ := ha pre p post rfl
    have hgood : isGood (sent sampleDriver o) = true := by
      simp [isGood, sent, dataOut, ho, Except.toOption, hs]
    simpa [hgood] using List.all_eq_true.mp hbad (sent sampleDriver o) (by simp)
  | _ => cases hsettle

end FreemkvUnlock.Ld
