import FreemkvUnlock.DeadBus
import FreemkvUnlock.Freemkv.Trace
import FreemkvUnlock.Freemkv.Unlock
import FreemkvUnlock.Renesas.Drive

/-! # Unlocking flashed firmware

Over flashed firmware only a reason to give up is an error, and only the SET that turns the
encryption off decides between success and no success. An identity that is refused ends the run
with the probe.
-/

namespace FreemkvUnlock.Freemkv

open Interaction Fallible Protocol

/-! ## Commands -/

def SetsOther (e : Event Scsi) : Prop := ∃ feature state data t, feature ≠ .encryption ∧
  e.1 = .execute (buildSetCdb feature state) .fromDevice data t

def SetsEncryptionOff (e : Event Scsi) : Prop :=
  match e with
  | ⟨.execute cdb _ _ _, _⟩ => cdb = buildSetCdb .encryption stateOff
  | _ => False

def ReadsVid (e : Event Scsi) : Prop :=
  match e with
  | ⟨.execute cdb _ _ _, _⟩ => cdb = buildVidCdb
  | _ => False

def Completed (e : Event Scsi) : Prop :=
  match e with
  | ⟨.execute _ _ data _, o⟩ =>
    ∃ r, (o : Outcome data.length).result = .ok r ∧ r.status = 0
  | _ => False

/-! Neither the span nor the pause is a command. -/

@[simp] theorem not_setsEncryptionOff_beginCritical (r : Except ScsiError Unit) :
    ¬ SetsEncryptionOff ⟨.beginCritical, r⟩ := id

@[simp] theorem not_setsEncryptionOff_endCritical (r : Unit) :
    ¬ SetsEncryptionOff ⟨.endCritical, r⟩ := id

@[simp] theorem not_setsEncryptionOff_pause (ms : ℕ) (r : Except ScsiError Unit) :
    ¬ SetsEncryptionOff ⟨.pause ms, r⟩ := id

@[simp] theorem not_readsVid_endCritical (r : Unit) : ¬ ReadsVid ⟨.endCritical, r⟩ := id

@[simp] theorem not_readsVid_pause (ms : ℕ) (r : Except ScsiError Unit) :
    ¬ ReadsVid ⟨.pause ms, r⟩ := id

theorem buildSetCdb_feature {f g : Feature} {s s' : UInt8}
    (h : buildSetCdb f s = buildSetCdb g s') : f = g := by
  have hcode : f.code = g.code := by
    have h5 := congrArg (fun l => l.getD 5 0) h
    exact h5
  cases f <;> cases g <;> first | rfl | cases hcode

theorem not_setsEncryptionOff_of_setsOther {e : Event Scsi} (h : SetsOther e) :
    ¬ SetsEncryptionOff e := by
  obtain ⟨o, r⟩ := e
  obtain ⟨f, s, data, t, hf, ho⟩ := h
  obtain rfl : o = _ := ho
  exact fun he => hf (buildSetCdb_feature he)

variable {c : Capabilities} {τ : List (Event Scsi)}

theorem setReply_cases (o : Outcome minAllocLen) :
    (FoundDead o.result ∧ setReply (preinstalled c) o = .error .transport) ∨
      ¬ FoundDead o.result ∧
        ((∃ r, o.result = .ok r ∧ r.status = 0) ∧ setReply (preinstalled c) o = .ok () ∨
          (¬ ∃ r, o.result = .ok r ∧ r.status = 0) ∧
            setReply (preinstalled c) o = .error .notApplicable) := by
  unfold setReply
  rcases hr : o.result with e | r
  · by_cases hd : isDeadBus e = true
    · exact .inl ⟨⟨e, rfl, hd⟩, by simp [hd]⟩
    · refine .inr ⟨?_, .inr ⟨nofun, by simp [hd]⟩⟩
      rintro ⟨e', he, hd'⟩
      exact hd (Except.error.inj he ▸ hd')
  · refine .inr ⟨nofun, ?_⟩
    by_cases hs : r.status = 0
    · exact .inl ⟨⟨r, rfl, hs⟩, if_pos hs⟩
    · exact .inr ⟨fun ⟨r', hr', hs'⟩ => hs (Except.ok.inj hr' ▸ hs'), if_neg hs⟩

/-! ## Activation -/

theorem issues_setBestEffort_other {f : Feature} (hf : f ≠ .encryption) (s : UInt8) :
    Issues SetsOther (setBestEffort (preinstalled c) (f, s)).run := by
  unfold setBestEffort
  split_ifs
  · refine .bind (.seq (.lift (.ask fun _ => ?_)) fun _ => .result _) fun r => ?_
    · exact ⟨f, s, _, _, hf, rfl⟩
    · split <;> exact .pure _
  · exact .ret ()

theorem haltsOn_setChecked (f : Feature) (s : UInt8) : HaltsOn DeadBus NoTail
    (Fails (· = .transport)) (setChecked (preinstalled c) f s).run := by
  refine .askResult (fun o => ?_) rfl
  change _ ↔ FoundDead o.result
  obtain ⟨hd, hr⟩ | ⟨hd, ⟨-, hr⟩ | ⟨-, hr⟩⟩ := setReply_cases (c := c) o
  · exact hr ▸ iff_of_true rfl hd
  · exact hr ▸ iff_of_false id hd
  · exact hr ▸ iff_of_false nofun hd

theorem haltsOn_setBestEffort (setting : Feature × UInt8) : HaltsOn DeadBus NoTail
    (Fails (· = .transport)) (setBestEffort (preinstalled c) setting).run := by
  unfold setBestEffort
  split_ifs
  · refine (haltsOn_setChecked _ _).bind (fun r τ b hr h => ?_) fun r hr => ?_
    · rcases r with e | u
      · obtain rfl : e = .transport := hr
        obtain ⟨rfl, rfl⟩ := run_pure_iff.mp h
        exact ⟨rfl, rfl⟩
      · exact hr.elim
    · split
      · exact absurd rfl hr
      · exact .pure id
  · exact .ret ()

theorem fails_setBestEffort (setting : Feature × UInt8) :
    FailsWith (· = .transport) (setBestEffort (preinstalled c) setting) := by
  intro τ e h
  unfold setBestEffort at h
  split_ifs at h
  · obtain ⟨τ₁, r, τ₂, rfl, -, h⟩ := run_bind_iff.mp h
    split at h
    · exact Except.error.inj (run_pure_iff.mp h).2
    · cases (run_pure_iff.mp h).2
  · cases (run_fallible_pure_iff.mp h).2

/-- Optional settings fail with a dead bus they found and with nothing else. -/
theorem run_forM_setBestEffort {settings : List (Feature × UInt8)} {r : Except UnlockError Unit}
    (hs : ∀ s ∈ settings, s.1 ≠ .encryption)
    (h : Run (settings.forM (setBestEffort (preinstalled c))).run τ r) :
    (∀ e ∈ τ, SetsOther e) ∧ ((r = .error .transport ∧ ∃ e ∈ τ, DeadBus e) ∨
      (r = .ok () ∧ ∀ e ∈ τ, ¬ DeadBus e)) := by
  refine ⟨Issues.forM (fun s h => issues_setBestEffort_other (hs s h) s.2) h, ?_⟩
  have hiff := (HaltsOn.forM haltsOn_setBestEffort settings).result_iff h
  rcases r with e | ⟨⟩
  · have hfails : FailsWith (· = .transport) (settings.forM (setBestEffort (preinstalled c))) := by
      clear h hiff hs
      induction settings with
      | nil => exact .ret ()
      | cons s settings ih => exact .seq (fails_setBestEffort s) fun _ => ih
    obtain rfl := hfails h
    exact .inl ⟨rfl, hiff.mp rfl⟩
  · exact .inr ⟨rfl, fun e he hd => hiff.mpr ⟨e, he, hd⟩⟩

def encryptionSet (o : Outcome minAllocLen) : Event Scsi :=
  ⟨.execute (buildSetCdb .encryption stateOff) .fromDevice (List.replicate minAllocLen 0) 5000, o⟩

/-- The Volume ID read, with its outcome. -/
def vidRead (o : Outcome vidStructLen) : Event Scsi :=
  ⟨.execute buildVidCdb .fromDevice (List.replicate vidStructLen 0) 5000, o⟩

inductive Activation (c : Capabilities) : List (Event Scsi) → Except UnlockError Unlocked → Prop
  | dead {ρ : List (Event Scsi)} : (∀ e ∈ ρ, SetsOther e) → (∃ e ∈ ρ, DeadBus e) →
      Activation c ρ (.error .transport)
  | refused {ρ : List (Event Scsi)} {o : Outcome minAllocLen} {e : UnlockError} :
      (∀ e ∈ ρ, SetsOther e) → (∀ e ∈ ρ, ¬ DeadBus e) → setReply (preinstalled c) o = .error e →
      Activation c (ρ ++ [encryptionSet o]) (.error (if e = .transport then e else .vidUnavailable))
  | granted {ρ : List (Event Scsi)} {o : Outcome minAllocLen} {v : Outcome vidStructLen} :
      (∀ e ∈ ρ, SetsOther e) → (∀ e ∈ ρ, ¬ DeadBus e) → setReply (preinstalled c) o = .ok () →
      Activation c (ρ ++ [encryptionSet o, vidRead v])
        ((vidReply v).map fun vid => ⟨vid, none⟩)

theorem run_activate (hc : c.implementation = .firmware) {r : Except UnlockError Unit}
    (h : Run (activate (preinstalled c)).run τ r) :
    (∀ e ∈ τ, SetsOther e) ∧ (∃ e ∈ τ, DeadBus e) ∧ r = .error .transport ∨
      ∃ ρ o, (∀ e ∈ ρ, SetsOther e) ∧ (∀ e ∈ ρ, ¬ DeadBus e) ∧ τ = ρ ++ [encryptionSet o] ∧
        r = (setReply (preinstalled c) o).mapError
          fun e => if e = .transport then e else .vidUnavailable := by
  rcases run_fallible_bind_iff.mp h with ⟨e, rfl, h₁⟩ | ⟨ρ, ⟨⟩, σ, rfl, h₁, h₂⟩
  · obtain ⟨hother, ⟨he, hdead⟩ | ⟨he, -⟩⟩ := run_forM_setBestEffort (by simp) h₁
    · exact .inl ⟨hother, hdead, he⟩
    · cases he
  obtain ⟨hother, ⟨he, -⟩ | ⟨-, hdead⟩⟩ := run_forM_setBestEffort (by simp) h₁
  · cases he
  rcases run_fallible_bind_iff.mp h₂ with ⟨e, rfl, h₃⟩ | ⟨σ₁, u, σ₂, rfl, h₃, h₄⟩
  · -- Flashed firmware supports every SET.
    rw [run_ensure_iff, if_pos (by simp [preinstalled, Capabilities.supportsSet, hc])] at h₃
    cases h₃.2
  obtain ⟨rfl, -⟩ := run_ensure_ok_iff.mp h₃
  obtain ⟨o, ho, rfl⟩ := run_mapErr_iff.mp h₄
  obtain ⟨a, rfl, rfl⟩ := run_ask_result_iff.mp ho
  exact .inr ⟨ρ, a, hother, hdead, rfl, rfl⟩

theorem run_activateBackend (hc : c.implementation = .firmware)
    {r : Except UnlockError Unlocked}
    (h : Run (activateBackend (preinstalled c) ()).run τ r) : Activation c τ r := by
  rcases run_fallible_bind_iff.mp h with ⟨e, rfl, h₁⟩ | ⟨τ₁, u, τ₂, rfl, h₁, h₂⟩
  · obtain ⟨hother, hdead, he⟩ | ⟨ρ, o, hother, hdead, rfl, he⟩ := run_activate hc h₁
    · obtain rfl := Except.error.inj he
      exact .dead hother hdead
    · rcases hr : setReply (preinstalled c) o with e' | u <;> rw [hr] at he
      · obtain rfl := Except.error.inj he
        exact .refused hother hdead hr
      · cases he
  obtain ⟨-, -, he⟩ | ⟨ρ, o, hother, hdead, rfl, he⟩ := run_activate hc h₁
  · cases he
  have hset : setReply (preinstalled c) o = .ok () := by
    rcases hr : setReply (preinstalled c) o with e' | u
    · rw [hr] at he
      cases he
    · rfl
  rcases run_fallible_bind_iff.mp h₂ with ⟨e, rfl, h₃⟩ | ⟨τ₃, v, τ₄, rfl, h₃, h₄⟩
  · cases (run_fallible_pure_iff.mp h₃).2
  obtain ⟨rfl, -⟩ := run_fallible_pure_iff.mp h₃
  have hgranted (v : Outcome vidStructLen) := Activation.granted (v := v) hother hdead hset
  rcases run_fallible_bind_iff.mp h₄ with ⟨e, rfl, h₅⟩ | ⟨τ₅, vid, τ₆, rfl, h₅, h₆⟩
  · obtain ⟨v, rfl, hv⟩ := run_ask_result_iff.mp h₅
    have hv' := hgranted v
    rw [← hv] at hv'
    exact List.append_assoc ρ _ _ ▸ hv'
  · obtain ⟨v, rfl, hv⟩ := run_ask_result_iff.mp h₅
    obtain ⟨rfl, rfl⟩ := run_fallible_pure_iff.mp h₆
    have hv' := hgranted v
    rw [← hv] at hv'
    exact List.append_assoc ρ _ _ ▸ hv'

/-! ## The outcome -/

/-- No Volume ID is read once the SET that turns the encryption off was refused. -/
def VidAfterGrant (τ : List (Event Scsi)) : Prop :=
  τ.Pairwise fun e e' => SetsEncryptionOff e → ReadsVid e' → Completed e

theorem VidAfterGrant.prepend {ρ : List (Event Scsi)} (hρ : ∀ e ∈ ρ, ¬ SetsEncryptionOff e)
    (h : VidAfterGrant τ) : VidAfterGrant (ρ ++ τ) := by
  refine List.pairwise_append.mpr ⟨?_, h, fun e he e' _ hset => absurd hset (hρ e he)⟩
  exact List.pairwise_of_forall_mem_list fun e he e' _ hset => absurd hset (hρ e he)

theorem VidAfterGrant.append {ρ : List (Event Scsi)} (h : VidAfterGrant τ)
    (hρ : ∀ e ∈ ρ, ¬ ReadsVid e) : VidAfterGrant (τ ++ ρ) := by
  refine List.pairwise_append.mpr ⟨h, ?_, fun e _ e' he' _ hvid => absurd hvid (hρ e' he')⟩
  exact List.pairwise_of_forall_mem_list fun e _ e' he' _ hvid => absurd hvid (hρ e' he')

/-- A run is lost exactly on a bad event and unlocks exactly when there was none and the
encryption was turned off. -/
structure Classified (bad : Event Scsi → Prop) (τ : List (Event Scsi)) (lost unlocked : Prop) :
    Prop where
  lost : lost ↔ ∃ e ∈ τ, bad e
  unlocked : unlocked ↔ (¬ ∃ e ∈ τ, bad e) ∧ ∃ e ∈ τ, SetsEncryptionOff e ∧ Completed e
  vid : VidAfterGrant τ

theorem vidReply_cases (o : Outcome vidStructLen) :
    (FoundDead o.result ∧ vidReply o = .error .transport) ∨
      ¬ FoundDead o.result ∧ ∃ vid, vidReply o = .ok vid := by
  unfold vidReply
  rcases hr : o.result with e | r
  · by_cases hd : isDeadBus e = true
    · exact .inl ⟨⟨e, rfl, hd⟩, if_pos hd⟩
    · refine .inr ⟨?_, none, if_neg hd⟩
      rintro ⟨e', he, hd'⟩
      exact hd (Except.error.inj he ▸ hd')
  · refine .inr ⟨nofun, ?_⟩
    dsimp only
    split_ifs <;> exact ⟨_, rfl⟩

theorem encryptionSet_of_error {o : Outcome minAllocLen} {e : UnlockError}
    (h : setReply (preinstalled c) o = .error e) :
    (e = .transport ↔ DeadBus (encryptionSet o)) ∧ ¬ Completed (encryptionSet o) := by
  obtain ⟨⟨err, ho, hd⟩, hr⟩ | ⟨hd, ⟨-, hr⟩ | ⟨hc, hr⟩⟩ := setReply_cases (c := c) o <;>
    rw [hr] at h
  · obtain rfl := Except.error.inj h
    refine ⟨iff_of_true rfl ⟨err, ho, hd⟩, fun ⟨r, hok, _⟩ => ?_⟩
    cases ho.symm.trans hok
  · cases h
  · obtain rfl := Except.error.inj h
    exact ⟨iff_of_false nofun hd, hc⟩

theorem encryptionSet_of_ok {o : Outcome minAllocLen}
    (h : setReply (preinstalled c) o = .ok ()) :
    ¬ DeadBus (encryptionSet o) ∧ Completed (encryptionSet o) := by
  obtain ⟨-, hr⟩ | ⟨hd, ⟨hc, -⟩ | ⟨-, hr⟩⟩ := setReply_cases (c := c) o
  · cases hr.symm.trans h
  · exact ⟨hd, hc⟩
  · cases hr.symm.trans h

theorem Activation.classified {r : Except UnlockError Unlocked} (h : Activation c τ r) :
    Classified DeadBus τ (r = .error .transport) (∃ u, r = .ok u) := by
  have hset {ρ : List (Event Scsi)} (hρ : ∀ e ∈ ρ, SetsOther e) : ∀ e ∈ ρ, ¬ SetsEncryptionOff e :=
    fun e he => not_setsEncryptionOff_of_setsOther (hρ e he)
  cases h with
  | dead hother hdead =>
    refine ⟨iff_of_true rfl hdead, iff_of_false nofun fun h => h.1 hdead, ?_⟩
    exact List.append_nil τ ▸ VidAfterGrant.prepend (hset hother) .nil
  | @refused ρ o e hother hdead hr =>
    obtain ⟨hiff, hcompleted⟩ := encryptionSet_of_error hr
    refine ⟨?_, iff_of_false nofun fun h => ?_, ?_⟩
    · simp only [List.mem_append, List.mem_singleton, or_and_right, exists_or, exists_eq_left,
        Except.error.injEq, ← hiff]
      split_ifs with he
      · exact iff_of_true he (.inr he)
      · refine iff_of_false nofun fun h => h.elim (fun ⟨e, hmem, hd⟩ => hdead e hmem hd) he
    · obtain ⟨e, hmem, hoff, hdone⟩ := h.2
      rcases List.mem_append.mp hmem with hmem | hmem
      · exact hset hother e hmem hoff
      · obtain rfl := List.mem_singleton.mp hmem
        exact hcompleted hdone
    · exact .prepend (hset hother) (List.pairwise_singleton ..)
  | @granted ρ o v hother hdead hr =>
    obtain ⟨hnot, hcompleted⟩ := encryptionSet_of_ok hr
    have hbad : (∃ e ∈ ρ ++ [encryptionSet o, vidRead v], DeadBus e) ↔ FoundDead v.result := by
      constructor
      · rintro ⟨e, hmem, hd⟩
        simp only [List.mem_append, List.mem_cons, List.not_mem_nil, or_false] at hmem
        obtain hmem | rfl | rfl := hmem
        · exact absurd hd (hdead e hmem)
        · exact absurd hd hnot
        · exact hd
      · exact fun hd => ⟨vidRead v, by simp, hd⟩
    refine ⟨?_, ?_, ?_⟩
    · rw [hbad]
      obtain ⟨hd, hv⟩ | ⟨hd, vid, hv⟩ := vidReply_cases v
      · exact iff_of_true (by rw [hv]; rfl) hd
      · exact iff_of_false (by rw [hv]; nofun) hd
    · have hgranted : ∃ e ∈ ρ ++ [encryptionSet o, vidRead v], SetsEncryptionOff e ∧ Completed e :=
        ⟨encryptionSet o, by simp, rfl, hcompleted⟩
      obtain ⟨hd, hv⟩ | ⟨hd, vid, hv⟩ := vidReply_cases v
      · exact iff_of_false (by rw [hv]; nofun) fun h => h.1 (hbad.mpr hd)
      · exact iff_of_true ⟨_, by rw [hv]; rfl⟩ ⟨fun h => hd (hbad.mp h), hgranted⟩
    · refine .prepend (hset hother) (List.pairwise_cons.mpr ⟨fun e he _ _ => hcompleted, ?_⟩)
      exact List.pairwise_singleton ..

/-! ## The run -/

theorem transaction_preinstalled : transaction (preinstalled c) () true =
    Except.ok <$> (activateBackend (preinstalled c) ()).run := by
  simp [transaction, attempt, confirmInstalled, preinstalled, Except.map]

/-- A refused pause takes the place of the result before it. -/
def afterPause (p : Except ScsiError Unit) (r : Except UnlockError Unlocked) :
    Except UnlockError Unlocked :=
  match p with
  | .error _ => .error .transport
  | .ok () => r

/-- The transaction of flashed firmware: a refused span, or an activation inside the span and the
pause that follows it. -/
theorem run_unlockBackend {r : Except UnlockError Unlocked}
    (h : Run (unlockBackend (preinstalled c) () true).run τ r) :
    (∃ e, τ = [⟨.beginCritical, .error e⟩] ∧ r = .error .transport) ∨
      ∃ (body : List (Event Scsi)) (r' : Except UnlockError Unlocked) (p : Except ScsiError Unit),
        τ = ⟨.beginCritical, .ok ()⟩ :: (body ++ [⟨.endCritical, ()⟩, ⟨.pause 0, p⟩]) ∧
        Run (activateBackend (preinstalled c) ()).run body r' ∧
        r = afterPause p r' := by
  unfold unlockBackend at h
  rw [transaction_preinstalled] at h
  rcases run_fallible_bind_iff.mp h with ⟨e, rfl, h₁⟩ | ⟨τ₁, a, τ₂, rfl, h₁, h₂⟩
  · rcases run_criticalSpan h₁ with ⟨e', rfl, he⟩ | ⟨_, _, -, -, he⟩
    · obtain rfl := Except.error.inj he
      exact .inl ⟨e', rfl, rfl⟩
    · cases he
  rcases run_criticalSpan h₁ with ⟨e', rfl, he⟩ | ⟨body, a', rfl, hbody, ha⟩
  · cases he
  obtain rfl := Except.ok.inj ha
  obtain ⟨r', hrun, rfl⟩ := run_map_iff.mp hbody
  have hcheckpoint {σ : List (Event Scsi)} {u : Except UnlockError Unit}
      (h : Run checkpoint.run σ u) : ∃ p : Except ScsiError Unit, σ = [⟨.pause 0, p⟩] ∧
        u = p.mapError fun _ => .transport := run_ask_result_iff.mp h
  rcases run_fallible_bind_iff.mp h₂ with ⟨e, rfl, h₃⟩ | ⟨τ₃, q, τ₄, rfl, h₃, h₄⟩
  · cases (run_result_iff.mp h₃).2
  obtain ⟨rfl, hr⟩ := run_result_iff.mp h₃
  obtain rfl : q = r' := Except.ok.inj hr
  rcases run_fallible_bind_iff.mp h₄ with ⟨e, rfl, h₅⟩ | ⟨τ₅, u, τ₆, rfl, h₅, h₆⟩
  · obtain ⟨p, rfl, hp⟩ := hcheckpoint h₅
    refine .inr ⟨body, q, p, by simp, hrun, ?_⟩
    rcases p with err | ⟨⟩
    · obtain rfl := Except.error.inj hp
      rfl
    · cases hp
  obtain ⟨p, rfl, hp⟩ := hcheckpoint h₅
  rcases p with err | ⟨⟩
  · cases hp
  have htune : Run (result q : Step Unlocked).run τ₆ r := by
    dsimp only at h₆
    split_ifs at h₆ <;> exact h₆
  obtain ⟨rfl, rfl⟩ := run_result_iff.mp htune
  exact .inr ⟨body, r, .ok (), by simp, hrun, rfl⟩

def identityProbe (o : Outcome memreadLen) : Event Scsi :=
  ⟨.execute (buildIdentityCdb memreadLen) .fromDevice (List.replicate memreadLen 0) 5000, o⟩

@[simp] theorem not_setsEncryptionOff_identityProbe (o : Outcome memreadLen) :
    ¬ SetsEncryptionOff (identityProbe o) := by
  intro h
  have hverb := congrArg (fun l => l.getD 4 0) (show buildIdentityCdb _ = buildSetCdb _ _ from h)
  cases hverb

def Replied (o : Outcome memreadLen) (bytes : List UInt8) : Prop :=
  ∃ r, o.result = .ok r ∧ r.status = 0 ∧ r.bytesTransferred ≤ memreadLen ∧
    bytes = o.data.toList.take r.bytesTransferred

theorem probeReply_of_replied {o : Outcome memreadLen} {bytes : List UInt8}
    (h : Replied o bytes) : probeReply o =
      match ProtocolIdentity.parse bytes with
      | some id => .ok (some id)
      | none =>
        if (FirmwareIdentity.parse bytes).isSome then .error .notApplicable else .ok none := by
  obtain ⟨r, hr, hs, hn, rfl⟩ := h
  unfold probeReply
  rw [hr]
  exact if_pos ⟨hs, hn⟩

theorem isSome_firmwareIdentity_iff (bytes : List UInt8) :
    (FirmwareIdentity.parse bytes).isSome ↔ respMagic <+: bytes := by
  unfold FirmwareIdentity.parse
  split_ifs with h
  · refine iff_of_true ?_ h
    split <;> rfl
  · exact iff_of_false nofun h

/-- Every run starts with the identity probe, whose reply chooses what follows. -/
theorem run_fullUnlock {U : FreemkvUnlocker} {driveId : DriveId} {r : Except UnlockError Unlocked}
    (h : Run (U.fullUnlockWithDrive driveId).run τ r) :
    ∃ o τ', τ = identityProbe o :: τ' ∧
      (∀ e, probeReply o = .error e → τ' = [] ∧ r = .error e) ∧
      ∀ id, probeReply o = .ok (some id) → id.capabilities.implementation = .firmware →
        Run (unlockBackend (preinstalled id.capabilities) () true).run τ' r := by
  unfold FreemkvUnlocker.fullUnlockWithDrive FreemkvUnlocker.selectBackend at h
  rw [bind_assoc] at h
  rcases run_fallible_bind_iff.mp h with ⟨e, rfl, h₁⟩ | ⟨τ₁, found, τ₂, rfl, h₁, h₂⟩
  · obtain ⟨o, rfl, ho⟩ := run_ask_result_iff.mp h₁
    refine ⟨o, [], rfl, fun e' he => ⟨rfl, ?_⟩, fun id hid => ?_⟩
    · exact congrArg _ (Except.error.inj (ho.trans he))
    · cases ho.trans hid
  · obtain ⟨o, rfl, ho⟩ := run_ask_result_iff.mp h₁
    refine ⟨o, τ₂, rfl, fun e he => ?_, fun id hid hfirmware => ?_⟩
    · cases ho.trans he
    · obtain rfl := Except.ok.inj (ho.trans hid)
      simp only [hfirmware, if_true, pure_bind] at h₂
      exact h₂

/-- How a run over flashed firmware is classified; without a reason to give up and without the
encryption turned off it ends without success. -/
structure FlashedOutcome (τ : List (Event Scsi)) (r : Except UnlockError (Option Unlocked)) :
    Prop where
  classified : Classified GivesUp τ (r = .error .transport) (∃ u, r = .ok (some u))
  otherwise : r = .error .transport ∨ (∃ u, r = .ok (some u)) ∨ r = .ok none

theorem flashedOutcome_fallthrough {r : Except UnlockError Unlocked}
    (h : Classified GivesUp τ (r = .error .transport) (∃ u, r = .ok u)) :
    FlashedOutcome τ (fallthrough r) := by
  rcases r with e | u
  · cases e with
    | transport =>
      refine ⟨⟨iff_of_true rfl (h.lost.mp rfl), ?_, h.vid⟩, .inl rfl⟩
      exact iff_of_false nofun fun hdone => hdone.1 (h.lost.mp rfl)
    | _ =>
      refine ⟨⟨?_, ?_, h.vid⟩, .inr (.inr rfl)⟩
      · exact iff_of_false nofun fun hbad => by cases h.lost.mpr hbad
      · exact iff_of_false nofun fun hdone => by
          obtain ⟨_, hu⟩ := h.unlocked.mpr hdone
          cases hu
  · refine ⟨⟨?_, ?_, h.vid⟩, .inr (.inl ⟨u, rfl⟩)⟩
    · exact iff_of_false nofun fun hbad => by cases h.lost.mpr hbad
    · exact iff_of_true ⟨u, rfl⟩ (h.unlocked.mp ⟨u, rfl⟩)

def IsCommand (e : Event Scsi) : Prop := ∃ cdb dir data t, e.1 = .execute cdb dir data t

theorem givesUp_command_iff {e : Event Scsi} (h : IsCommand e) : GivesUp e ↔ DeadBus e := by
  obtain ⟨o, r⟩ := e
  obtain ⟨cdb, dir, data, t, ho⟩ := h
  obtain rfl : o = _ := ho
  exact ⟨fun h => h.elim id fun h => h.elim False.elim False.elim, .inl⟩

/-- The span and the pause around an activation add their refusals to its dead buses. -/
theorem Classified.spanned {o : Outcome memreadLen} {s : ScsiResult} {body : List (Event Scsi)}
    {r : Except UnlockError Unlocked} {p : Except ScsiError Unit} (ho : o.result = .ok s)
    (hbody : ∀ e ∈ body, IsCommand e)
    (h : Classified DeadBus body (r = .error .transport) (∃ u, r = .ok u)) :
    Classified GivesUp (identityProbe o :: ⟨.beginCritical, .ok ()⟩ ::
        (body ++ [⟨.endCritical, ()⟩, ⟨.pause 0, p⟩]))
      (afterPause p r = .error .transport) (∃ u, afterPause p r = .ok u) := by
  have hprobe : ¬ GivesUp (identityProbe o) := by
    rintro (⟨e, he, -⟩ | hf | hf)
    · cases ho.symm.trans he
    · exact hf
    · exact hf
  have hbegin : ¬ GivesUp (⟨.beginCritical, .ok ()⟩ : Event Scsi) := by
    rintro (hf | hf | ⟨e, he⟩)
    · exact hf
    · exact hf
    · cases he
  have hend : ¬ GivesUp (⟨.endCritical, ()⟩ : Event Scsi) := by
    rintro (hf | hf | hf) <;> exact hf
  have hpause : GivesUp (⟨.pause 0, p⟩ : Event Scsi) ↔ ∃ err, p = .error err :=
    ⟨fun h => h.elim False.elim fun h => h.elim id False.elim, fun h => .inr (.inl h)⟩
  have hbad : (∃ e ∈ identityProbe o :: ⟨.beginCritical, .ok ()⟩ ::
      (body ++ [⟨.endCritical, ()⟩, ⟨.pause 0, p⟩]), GivesUp e) ↔
      (∃ e ∈ body, DeadBus e) ∨ ∃ err, p = .error err := by
    simp only [List.mem_cons, List.mem_append, List.not_mem_nil, or_false, or_and_right, exists_or,
      exists_eq_left, hprobe, hbegin, hend, hpause, false_or]
    refine or_congr_left (exists_congr fun e => and_congr_right fun he => ?_)
    exact givesUp_command_iff (hbody e he)
  have hdone : (∃ e ∈ identityProbe o :: ⟨.beginCritical, .ok ()⟩ ::
      (body ++ [⟨.endCritical, ()⟩, ⟨.pause 0, p⟩]), SetsEncryptionOff e ∧ Completed e) ↔
      ∃ e ∈ body, SetsEncryptionOff e ∧ Completed e := by
    simp only [List.mem_cons, List.mem_append, List.not_mem_nil, or_false, or_and_right, exists_or,
      exists_eq_left, not_setsEncryptionOff_identityProbe, not_setsEncryptionOff_beginCritical,
      not_setsEncryptionOff_endCritical, not_setsEncryptionOff_pause, false_and, false_or]
  refine ⟨?_, ?_, ?_⟩
  · rw [hbad]
    rcases p with err | ⟨⟩
    · exact iff_of_true rfl (.inr ⟨err, rfl⟩)
    · exact h.lost.trans (or_iff_left nofun).symm
  · rw [hbad, hdone]
    rcases p with err | ⟨⟩
    · exact iff_of_false nofun fun hno => hno.1 (.inr ⟨err, rfl⟩)
    · exact h.unlocked.trans (and_congr_left' (not_congr (or_iff_left nofun).symm))
  · have hhead : ∀ e ∈ [identityProbe o, ⟨.beginCritical, .ok ()⟩], ¬ SetsEncryptionOff e := by simp
    exact .prepend hhead (h.vid.append (by simp))

theorem flashedOutcome {o : Outcome memreadLen} {s : ScsiResult} (ho : o.result = .ok s)
    (hc : c.implementation = .firmware) {r : Except UnlockError Unlocked}
    (h : Run (unlockBackend (preinstalled c) () true).run τ r) :
    FlashedOutcome (identityProbe o :: τ) (fallthrough r) := by
  refine flashedOutcome_fallthrough ?_
  rcases run_unlockBackend h with ⟨e, rfl, rfl⟩ | ⟨body, r', p, rfl, hbody, rfl⟩
  · have hbad : ∃ e' ∈ [identityProbe o, ⟨.beginCritical, .error e⟩], GivesUp e' :=
      ⟨_, List.mem_cons_of_mem _ List.mem_cons_self, .inr (.inr ⟨e, rfl⟩)⟩
    refine ⟨iff_of_true rfl hbad, iff_of_false nofun fun h => h.1 hbad, ?_⟩
    have hhead : ∀ e' ∈ [identityProbe o, ⟨.beginCritical, .error e⟩], ¬ SetsEncryptionOff e' := by
      simp
    exact .prepend hhead .nil
  · refine (run_activateBackend hc hbody).classified.spanned ho ?_
    refine issues_activateBackend (fun cdb dir data t _ => ⟨cdb, dir, data, t, rfl⟩) ?_ ?_ hbody
    · exact .ret ()
    · exact issues_readAacsVid fun cdb dir data t _ => ⟨cdb, dir, data, t, rfl⟩

/-- Every run starts with the identity probe. Flashed firmware classifies the run; an identity that
leads with the magic and is not accepted ends it. -/
theorem unlock_classified (U : FreemkvUnlocker) (driveId : DriveId) (τ : List (Event Scsi))
    (r : Except UnlockError (Option Unlocked)) (h : Run (U.unlock driveId).run τ r) :
    ∃ o τ', τ = identityProbe o :: τ' ∧ ∀ bytes, Replied o bytes →
      (∀ id, ProtocolIdentity.parse bytes = some id → id.capabilities.implementation = .firmware →
        FlashedOutcome τ r) ∧
      (respMagic <+: bytes → ProtocolIdentity.parse bytes = none → τ' = [] ∧ r = .ok none) := by
  obtain ⟨r, hrun, rfl⟩ := run_map_iff.mp h
  obtain ⟨o, τ', rfl, herror, hfirmware⟩ := run_fullUnlock hrun
  refine ⟨o, τ', rfl, fun bytes hreply => ⟨fun found hid himpl => ?_, fun hmagic hnone => ?_⟩⟩
  · obtain ⟨s, hs, -⟩ := id hreply
    exact flashedOutcome hs himpl
      (hfirmware found (by rw [probeReply_of_replied hreply, hid]) himpl)
  · obtain ⟨rfl, rfl⟩ := herror .notApplicable (by
      rw [probeReply_of_replied hreply, hnone]
      exact if_pos ((isSome_firmwareIdentity_iff bytes).mpr hmagic))
    exact ⟨rfl, rfl⟩

/-- A drive that answers every command GOOD with one reply, and reports so many bytes more than
the buffer takes. -/
def repliesWith (reply : List UInt8) (excess : ℕ) : Handler Scsi Unit
  | .execute _ _ data _, s =>
    (⟨.ok ⟨0, data.length + excess, Vector.replicate 32 0⟩,
      Renesas.fillBuffer data.length reply⟩, s)
  | .executeCleanup _ _ data _, s =>
    (⟨.ok ⟨0, data.length, Vector.replicate 32 0⟩, Vector.replicate data.length 0⟩, s)
  | .pause _, s => (.ok (), s)
  | .beginCritical, s => (.ok (), s)
  | .endCritical, s => ((), s)
  | .now, s => ((0 : ℕ), s)
  | .fillBytes n, s => (Vector.replicate n 0, s)
  | .diagnosticMemory _ _ _, s => (.error .other, s)
  | .quietDrive, s => (.failed none, s)

/-- The identity of flashed firmware of some minor version. -/
def banner (minor : UInt8) : List UInt8 :=
  respMagic ++ [0x20, 0x30, 0x2E, minor] ++ List.replicate 53 0

def bareUnlocker : FreemkvUnlocker := ⟨none, fun _ => false, Renesas.samplePioneer⟩

def blankDrive : DriveId := ⟨"", "", "", "", ""⟩

theorem unlock_classified_banner : ∃ τ r,
    Run (bareUnlocker.unlock blankDrive).run τ r ∧ FlashedOutcome τ r := by
  have hex : (exec (repliesWith (banner 0x39) 0) (bareUnlocker.unlock blankDrive).run
      ()).isSome = true := by decide +kernel
  obtain ⟨⟨r, τ, s⟩, he⟩ := Option.isSome_iff_exists.mp hex
  have hrun := run_of_exec he
  obtain ⟨o, τ', rfl, hclass⟩ := unlock_classified bareUnlocker blankDrive τ r hrun
  obtain rfl := answer_of_exec he
  refine ⟨_, r, hrun, (hclass (banner 0x39) ?_).1 ⟨⟨[0x30, 0x2E, 0x39]⟩, ⟨.firmware⟩⟩ ?_ rfl⟩
  · exact ⟨_, rfl, rfl, by decide, by decide +kernel⟩
  · decide +kernel

/-- The banner of version 0.8 with one byte too many reported does not end the run. -/
theorem unlock_oversized_banner : ∃ o τ' r reply,
    Run (bareUnlocker.unlock blankDrive).run (identityProbe o :: τ') r ∧
      o.result = .ok reply ∧ reply.status = 0 ∧
      respMagic <+: o.data.toList.take reply.bytesTransferred ∧
      ProtocolIdentity.parse (o.data.toList.take reply.bytesTransferred) = none ∧
      ∃ e ∈ τ', IsCommand e := by
  have hex : exec (repliesWith (banner 0x38) 1) (bareUnlocker.unlock blankDrive).run () =
      some (.ok none, [_, _], ()) := rfl
  refine ⟨_, _, _, _, run_of_exec hex, rfl, rfl, by decide +kernel, by decide +kernel, ?_⟩
  exact ⟨_, List.mem_singleton_self _, _, _, _, _, rfl⟩

end FreemkvUnlock.Freemkv
