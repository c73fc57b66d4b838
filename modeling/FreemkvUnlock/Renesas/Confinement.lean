import FreemkvUnlock.Freemkv.Trace
import FreemkvUnlock.Freemkv.Unlock
import FreemkvUnlock.Renesas.Drive

/-! # Write confinement

Data-outs are issued only by staging and cleanup of a fresh plan, inside the one critical span
and after all ownership was rechecked, and only into the ranges the plan names.
-/

namespace FreemkvUnlock.Renesas

open Bytes Interaction Fallible Freemkv

/-- An event that writes nothing and leaves the critical span alone. -/
def Quiet (e : Event Scsi) : Prop :=
  dataOut? e = none ∧ e.1 ≠ .beginCritical ∧ e.1 ≠ .endCritical

/-- The writes a plan permits, each inside the writable RAM. -/
def Permitted (p : Prepared) (a : ℕ) (bytes : List UInt8) : Prop :=
  writableRam a bytes.length = true ∧
    (.sized a bytes.length = p.allocation ∨ .sized a bytes.length = p.pointerSlot ∨
      .sized a bytes.length = p.vidSlot ∨
      .sized a bytes.length = p.securitySlot ∧ bytes = u32ToBeBytes p.sites.securityTable)

/-- An event that leaves the critical span alone and writes only what the plan permits. -/
def InPlan (p : Prepared) (e : Event Scsi) : Prop :=
  e.1 ≠ .beginCritical ∧ e.1 ≠ .endCritical ∧
    ∀ a bytes, dataOut? e = some (a, bytes) → ∃ b, a = some b ∧ Permitted p b bytes

theorem Quiet.inPlan {e : Event Scsi} (h : Quiet e) (p : Prepared) : InPlan p e :=
  ⟨h.2.1, h.2.2, fun a bytes hd => by simp [h.1] at hd⟩

theorem quiet_command : HoldsOfCommands Quiet := fun _ _ _ _ _ => ⟨rfl, nofun, nofun⟩

structure HoldsOfReads (Q : Event Scsi → Prop) : Prop where
  command : HoldsOfCommands Q
  read : ∀ selector offset n r, Q ⟨.diagnosticMemory selector offset (.dataIn n), r⟩

theorem quiet_reads : HoldsOfReads Quiet := ⟨quiet_command, fun _ _ _ _ => ⟨rfl, nofun, nofun⟩⟩

variable {P : Pioneer} {profile : Profile} {p : Prepared} {Q : Event Scsi → Prop}

theorem inPlan_reads : HoldsOfReads (InPlan p) :=
  ⟨fun _ _ _ _ _ => (quiet_command _ _ _ _ _).inPlan p,
    fun _ _ _ _ => (quiet_reads.read _ _ _ _).inPlan p⟩

/-! ## Steps that write nothing -/

theorem issues_read (hQ : HoldsOfReads Q) (cpu n : ℕ) : Issues Q (read P profile cpu n).run :=
  .seq (.ensure _ _) fun _ => .seq (.seq (.result _) fun _ => .seq (.lift (.ask fun _ =>
    hQ.read _ _ _ _)) fun _ => .result _) fun _ => .ret _

theorem issues_expect (hQ : HoldsOfReads Q) (cpu n : ℕ) (bytes : List UInt8) :
    Issues Q (expect P profile cpu n bytes).run :=
  .seq (issues_read hQ _ _) fun _ => .ensure _ _

theorem issues_checkGuards (hQ : HoldsOfReads Q) : Issues Q (checkGuards P profile).run :=
  .seq (.ensure _ _) fun _ => .forM fun _ _ => .seq (.ensure _ _) fun _ => issues_expect hQ _ _ _

theorem issues_genericCdb (hQ : HoldsOfCommands Q) (cdb : List UInt8) (dir : DataDirection)
    (data : List UInt8) : Issues Q (genericCdb cdb dir data).run :=
  .seq (.ensure _ _) fun _ => .seq (.ensure _ _) fun _ => .seq (.ensure _ _) fun _ =>
    .seq (.lift (.ask fun _ => hQ _ _ _ _ _)) fun _ => .seq (.result _) fun _ =>
      .seq (.ensure _ _) fun _ => .ret _

theorem issues_loadBody (hQ : HoldsOfReads Q) (n fuel : ℕ) (image : List UInt8) :
    Issues Q (loadBody P n fuel image).run := by
  induction fuel generalizing image with
  | zero => intro τ r h; cases h
  | succ fuel ih =>
    unfold loadBody
    split_ifs
    · exact .seq (issues_genericCdb hQ.command _ _ _) fun _ => .seq (.ensure _ _) fun _ => ih _
    · exact .ret _

theorem issues_loadNormal (hQ : HoldsOfReads Q) : Issues Q (loadNormal P).run :=
  .seq (issues_genericCdb hQ.command _ _ _) fun _ => .seq (.ensure _ _) fun _ =>
    .seq (.ensure _ _) fun _ => .seq (.result _) fun _ => .seq (.ensure _ _) fun _ =>
      issues_loadBody hQ _ _ _

theorem issues_findFreeSpace (hQ : HoldsOfReads Q) (size alignment : ℕ) :
    Issues Q (findFreeSpace P profile size alignment).run := by
  refine .seq (.ensure _ _) fun _ => .seq ?_ fun _ => .seq (.result _) fun _ =>
    .seq (.result _) fun _ => .ret _
  refine .seq (.result _) fun _ => .seq (issues_read hQ _ _) fun _ => .seq (.ensure _ _) fun _ => ?_
  refine .seq (.result _) fun _ => .seq (.ensure _ _) fun _ => ?_
  refine .seq (issues_checkGuards hQ) fun _ => .seq (.result _) fun _ => ?_
  refine .seq (.ensure _ _) fun _ => .seq (.ensure _ _) fun _ => ?_
  refine .seq (issues_checkGuards hQ) fun _ => .seq (.result _) fun _ => ?_
  exact .seq (.result _) fun _ => .seq (.result _) fun _ => .ret _

theorem issues_prepare (hQ : HoldsOfReads Q) (existing : Bool) :
    Issues Q (prepare P existing).run := by
  refine .seq (.seq (issues_genericCdb hQ.command _ _ _) fun _ => .ensure _ _) fun _ => ?_
  refine .seq (issues_loadNormal hQ) fun _ => .seq (.result _) fun _ => .seq (.result _) fun _ => ?_
  refine .seq (issues_findFreeSpace hQ _ _) fun _ => .seq (issues_expect hQ _ _ _) fun _ => ?_
  refine .seq (issues_expect hQ _ _ _) fun _ => .seq (issues_expect hQ _ _ _) fun _ => ?_
  refine .seq (issues_read hQ _ _) fun _ => .seq (.result _) fun _ => .seq (.result _) fun _ => ?_
  refine .seq (.result _) fun _ => .seq (issues_read hQ _ _) fun _ => .seq (.result _) fun _ => ?_
  refine .seq (.result _) fun _ => .seq (issues_read hQ _ _) fun _ => ?_
  refine .seq (issues_expect hQ _ _ _) fun _ => .seq (.ensure _ _) fun _ => ?_
  exact .seq (issues_read hQ _ _) fun _ => .seq (.ensure _ _) fun _ => .ret _

theorem issues_checkPrepared (hQ : HoldsOfReads Q) (existing : Bool) :
    Issues Q (checkPrepared P p existing).run :=
  .seq (issues_checkGuards hQ) fun _ => .seq (issues_read hQ _ _) fun _ => .seq (.ensure _ _)
    fun _ => .seq (issues_expect hQ _ _ _) fun _ => .seq (issues_expect hQ _ _ _) fun _ =>
      .seq (issues_expect hQ _ _ _) fun _ => issues_expect hQ _ _ _

theorem issues_verifyState (hQ : HoldsOfReads Q) : Issues Q (verifyState P p).run :=
  .seq (issues_expect hQ _ _ _) fun _ => .seq (issues_expect hQ _ _ _) fun _ =>
    issues_expect hQ _ _ _

theorem issues_verifyResident (hQ : HoldsOfReads Q) : Issues Q (verifyResident P p).run :=
  .seq (issues_expect hQ _ _ _) fun _ => .seq (issues_checkGuards hQ) fun _ =>
    .seq (issues_expect hQ _ _ _) fun _ => .seq (issues_expect hQ _ _ _) fun _ =>
      .seq (issues_expect hQ _ _ _) fun _ => issues_expect hQ _ _ _

theorem issues_verify (hQ : HoldsOfReads Q) (s : State) : Issues Q (verify P s).run :=
  .seq (.result _) fun _ => .seq (.mapErr _ (issues_verifyState hQ)) fun _ =>
    .mapErr _ (issues_verifyResident hQ)

/-! ## Steps that write -/

/-- Staging has a property that all reads and its own writes have. -/
theorem issues_stage_of (hQ : HoldsOfReads Q)
    (hpayload : Issues Q (write P p.profile p.allocation.start p.payload).run)
    (hvid : Issues Q (write P p.profile p.sites.vid.slot p.vidInstalledPointer).run)
    (hpointer : Issues Q (write P p.profile p.profile.pointerAddress p.installedPointer).run) :
    Issues Q (stage P p).run :=
  .seq hpayload fun _ => .seq (issues_expect hQ _ _ _) fun _ => .seq hvid fun _ =>
    .seq (issues_expect hQ _ _ _) fun _ => .seq hpointer fun _ => issues_expect hQ _ _ _

theorem issues_restorePolicy_of (hQ : HoldsOfReads Q) (hpolicy : Issues Q
      (write P p.profile p.sites.securitySlot (u32ToBeBytes p.sites.securityTable)).run) :
    Issues Q (restorePolicy P p).run := by
  refine .seq (issues_read hQ _ _) fun bs => .seq (.ensure _ _) fun _ => ?_
  split_ifs
  · exact .seq hpolicy fun _ => issues_expect hQ _ _ _
  · exact .ret ()

theorem issues_cleanup_of (hQ : HoldsOfReads Q)
    (hpointer : Issues Q (write P p.profile p.profile.pointerAddress
      (u32ToBeBytes p.profile.originalTable)).run)
    (hvid : Issues Q (write P p.profile p.sites.vid.slot (u32ToBeBytes p.sites.vid.table)).run)
    (hpolicy : Issues Q
      (write P p.profile p.sites.securitySlot (u32ToBeBytes p.sites.securityTable)).run)
    (hfree : Issues Q (write P p.profile p.allocation.start p.original).run) :
    Issues Q (cleanup P p).run :=
  .seq hpointer fun _ => .seq (issues_expect hQ _ _ _) fun _ => .seq hvid fun _ =>
    .seq (issues_expect hQ _ _ _) fun _ => .seq (issues_expect hQ _ _ _) fun _ =>
      .seq (issues_checkGuards hQ) fun _ => .seq (issues_restorePolicy_of hQ hpolicy) fun _ =>
        .seq hfree fun _ => issues_expect hQ _ _ _

theorem issues_write {cpu : ℕ} {bytes : List UInt8} (hb : profile.controllerCpuBase = 0xa00000)
    (h : bytes.length < 2 ^ 32 → writableRam cpu bytes.length = true → Permitted p cpu bytes) :
    Issues (InPlan p) (write P profile cpu bytes).run := by
  intro τ r hr e he
  rcases run_memory hr with ⟨rfl, -⟩ | ⟨s, o, ht, rfl⟩
  · cases he
  obtain ⟨ha, hl, hw⟩ := transferTarget_eq hb ht
  obtain rfl := List.mem_singleton.mp he
  refine ⟨nofun, nofun, fun a bs hd => ?_⟩
  obtain ⟨rfl, rfl⟩ : some cpu = a ∧ bytes = bs := by simpa [dataOut?, ha] using hd
  exact ⟨cpu, rfl, h hl (hw rfl)⟩

theorem issues_stage (hp : p.Placed) : Issues (InPlan p) (stage P p).run := by
  refine issues_stage_of inPlan_reads ?_ ?_ ?_
  · exact issues_write hp.base fun hl hw => ⟨hw, .inl (hp.payload_range hl)⟩
  · refine issues_write hp.base fun _ hw => ⟨hw, .inr (.inr (.inl ?_))⟩
    rw [hp.vidInstalled]; rfl
  · refine issues_write hp.base fun _ hw => ⟨hw, .inr (.inl ?_)⟩
    rw [hp.installed]; rfl

theorem issues_cleanup (hp : p.Placed) : Issues (InPlan p) (cleanup P p).run :=
  issues_cleanup_of inPlan_reads
    (issues_write hp.base fun _ hw => ⟨hw, .inr (.inl rfl)⟩)
    (issues_write hp.base fun _ hw => ⟨hw, .inr (.inr (.inl rfl))⟩)
    (issues_write hp.base fun _ hw => ⟨hw, .inr (.inr (.inr ⟨rfl, rfl⟩))⟩)
    (issues_write hp.base fun _ hw => ⟨hw, .inl hp.sized.symm⟩)

/-! ## The transaction -/

def State.planned (p : Prepared) (installed : Bool) : State := ⟨some p, installed, false⟩

/-- The state once the ownership check succeeded. -/
def State.committed (p : Prepared) (installed : Bool) : State := ⟨some p, installed, true⟩

theorem run_prepareBackend_ok {installed : Bool} {s : State} {τ : List (Event Scsi)}
    (h : Run (prepareBackend P .new installed).run τ (.ok s)) :
    ∃ p, s = .planned p installed ∧ Run (prepare P installed).run τ (.ok p) := by
  obtain ⟨τ₁, p, τ₂, rfl, h₁, h₂⟩ := run_fallible_bind_ok_iff.mp h
  obtain ⟨rfl, hs⟩ := run_fallible_pure_iff.mp h₂
  rw [List.append_nil]
  exact ⟨p, Except.ok.inj hs, run_mapErr_ok_iff.mp h₁⟩

theorem issues_activateBackend_quiet (s : State) :
    Issues Quiet (activateBackend (backend P) s).run :=
  issues_activateBackend quiet_command (issues_verify quiet_reads s)
    (issues_readAacsVid quiet_command)

/-- Before the ownership check succeeded nothing is touched, and then nothing is cleaned up. -/
theorem run_install {installed : Bool} {s : State} {r : Except UnlockError Unit}
    {τ : List (Event Scsi)} (h : Run (install P (.planned p installed) installed) τ (r, s)) :
    (s = .planned p installed ∧ (∃ e, r = .error e) ∧ ∀ e ∈ τ, Quiet e) ∨
      s = .committed p installed ∧ ∃ checked staged,
        τ = checked ++ staged ∧ Run (checkPrepared P p installed).run checked (.ok ()) ∧
        ((installed = true ∧ staged = [] ∧ r = .ok ()) ∨
          installed = false ∧ Run (mapErr transactionError (stage P p)).run staged r) := by
  obtain ⟨τ₁, c, τ₂, rfl, h₁, h₂⟩ := run_bind_iff.mp h
  rcases c with e | ⟨⟩
  · obtain ⟨rfl, hr⟩ := run_pure_iff.mp h₂
    obtain ⟨rfl, rfl⟩ := Prod.mk.inj hr
    exact .inl ⟨rfl, ⟨e, rfl⟩, by simpa using (issues_checkPrepared quiet_reads _).mapErr _ h₁⟩
  refine .inr ?_
  have hc := run_mapErr_ok_iff.mp h₁
  dsimp only at h₂
  split_ifs at h₂ with hi
  · obtain ⟨rfl, hr⟩ := run_pure_iff.mp h₂
    obtain ⟨rfl, rfl⟩ := Prod.mk.inj hr
    exact ⟨rfl, τ₁, [], rfl, hc, .inl ⟨hi, rfl, rfl⟩⟩
  · obtain ⟨τ₃, r', τ₄, rfl, h₃, h₄⟩ := run_bind_iff.mp h₂
    obtain ⟨rfl, hr⟩ := run_pure_iff.mp h₄
    obtain ⟨rfl, rfl⟩ := Prod.mk.inj hr
    exact ⟨rfl, τ₁, τ₃, by simp, hc, .inr ⟨by simpa using hi, h₃⟩⟩

theorem issues_finish_untouched (P : Pioneer) (p : Prepared) (installed success : Bool) :
    Issues Quiet (finish P (.planned p installed) success).run := .ret ()

theorem issues_finish {s : State} {success : Bool} (hQ : HoldsOfReads Q)
    (hundo : ∀ p, s.prepared = some p → Issues Q (undo P p s.existing).run) :
    Issues Q (finish P s success).run := by
  unfold finish
  split
  · rename_i p _ hp
    refine .seq (.lift ?_) fun verified => ?_
    · split_ifs
      · exact .map (issues_verifyResident hQ)
      · exact .pure _
    · split_ifs
      · exact .ret ()
      · exact .seq (hundo p hp) fun _ => .throw _
  · exact .ret ()

theorem issues_undo (hp : p.Placed) : Issues (InPlan p) (undo P p false).run := by
  simp only [undo, Bool.false_eq_true, ↓reduceIte]
  exact .mapErr _ (issues_cleanup hp)

theorem issues_transaction (hQ : HoldsOfReads Q)
    (hwrite : ∀ profile cpu bytes, Issues Q (write P profile cpu bytes).run) (s : State)
    (installed : Bool) : Issues Q (transaction (backend P) s installed) := by
  have hstage (p : Prepared) : Issues Q (stage P p).run :=
    issues_stage_of hQ (hwrite _ _ _) (hwrite _ _ _) (hwrite _ _ _)
  have hundo (p : Prepared) (existing : Bool) : Issues Q (undo P p existing).run := by
    unfold undo
    split_ifs
    · exact .ret ()
    · exact .mapErr _ (issues_cleanup_of hQ (hwrite _ _ _) (hwrite _ _ _) (hwrite _ _ _)
        (hwrite _ _ _))
  have hinstall : Issues Q (install P s installed) := by
    unfold install
    split
    · exact .pure _
    refine .bind (.mapErr _ (issues_checkPrepared hQ _)) fun r => ?_
    split
    · exact .pure _
    dsimp only
    split_ifs
    · exact .pure _
    · exact .bind (.mapErr _ (hstage _)) fun _ => .pure _
  refine .bind (.bind hinstall fun ⟨r, t⟩ => ?_) fun ⟨r, t⟩ =>
    .bind (issues_finish hQ fun p _ => hundo p _) fun _ => .pure _
  cases r with
  | error e => exact .pure _
  | ok u =>
    refine .bind (.seq (issues_confirmInstalled hQ.command _) fun _ => ?_) fun _ => .pure _
    exact issues_activateBackend hQ.command (issues_verify hQ t) (issues_readAacsVid hQ.command)

/-- A transaction writes nothing, or it is a fresh one that wrote by plan after the check. -/
theorem run_transaction_cases (hp : p.Placed) {installed : Bool} {τ : List (Event Scsi)}
    {r : Except UnlockError (Except UnlockError Unlocked)}
    (h : Run (transaction (backend P) (.planned p installed) installed) τ r) :
    (∀ e ∈ τ, Quiet e) ∨ installed = false ∧ ∃ checked inner, τ = checked ++ inner ∧
      Run (checkPrepared P p false).run checked (.ok ()) ∧ ∀ e ∈ inner, InPlan p e := by
  obtain ⟨τ₁, ⟨a, s⟩, τ₂, rfl, h₁, h₂⟩ := run_bind_iff.mp h
  obtain ⟨τ₃, ⟨i, s'⟩, τ₄, rfl, h₃, h₄⟩ := run_bind_iff.mp h₁
  obtain ⟨τ₅, f, τ₆, rfl, h₅, h₆⟩ := run_bind_iff.mp h₂
  obtain ⟨rfl, -⟩ := run_pure_iff.mp h₆
  rcases run_install h₃ with ⟨rfl, ⟨e, rfl⟩, hquiet⟩ | ⟨rfl, checked, staged, rfl, hc, hstaged⟩
  · obtain ⟨rfl, hs⟩ := run_pure_iff.mp h₄
    obtain ⟨rfl, rfl⟩ := Prod.mk.inj hs
    have hf : ∀ e ∈ τ₅, Quiet e := issues_finish_untouched P p installed false h₅
    refine .inl fun e he => ?_
    simp only [List.append_nil, List.mem_append] at he
    exact he.elim (hquiet e) (hf e)
  have hact : s = .committed p installed ∧ ∀ e ∈ τ₄, Quiet e := by
    cases i with
    | error e =>
      obtain ⟨rfl, hs⟩ := run_pure_iff.mp h₄
      exact ⟨(Prod.mk.inj hs).2, nofun⟩
    | ok u =>
      obtain ⟨τ₇, a', τ₈, rfl, h₇, h₈⟩ := run_bind_iff.mp h₄
      obtain ⟨rfl, hs⟩ := run_pure_iff.mp h₈
      refine ⟨(Prod.mk.inj hs).2, ?_⟩
      rw [List.append_nil]
      have hquiet : Issues Quiet (do
          confirmInstalled (backend P) installed
          activateBackend (backend P) (.committed p installed) : Step Unlocked).run :=
        .seq (issues_confirmInstalled quiet_command _) fun _ => issues_activateBackend_quiet _
      exact hquiet h₇
  obtain ⟨rfl, hact⟩ := hact
  have hcheck : ∀ e ∈ checked, Quiet e := issues_checkPrepared quiet_reads _ hc
  rcases hstaged with ⟨rfl, rfl, -⟩ | ⟨rfl, hstage⟩
  · change Run (finish P (.committed p true) a.isOk).run τ₅ f at h₅
    have hf : ∀ e ∈ τ₅, Quiet e := issues_finish quiet_reads (fun _ _ => .ret ()) h₅
    refine .inl fun e he => ?_
    simp only [List.append_nil, List.mem_append] at he
    exact he.elim (fun he => he.elim (hcheck e) (hact e)) (hf e)
  · have hs : ∀ e ∈ staged, InPlan p e := (issues_stage hp).mapErr _ hstage
    change Run (finish P (.committed p false) a.isOk).run τ₅ f at h₅
    have hf : ∀ e ∈ τ₅, InPlan p e :=
      issues_finish inPlan_reads (fun p' hp' => Option.some.inj hp' ▸ issues_undo hp) h₅
    refine .inr ⟨rfl, checked, staged ++ τ₄ ++ τ₅, by simp, hc, fun e he => ?_⟩
    simp only [List.mem_append] at he
    exact he.elim (fun he => he.elim (hs e) fun he => (hact e he).inPlan p) (hf e)

/-! ## The whole run -/

variable {U : FreemkvUnlocker} {driveId : DriveId} {τ : List (Event Scsi)}

def UsesRenesas (U : FreemkvUnlocker) (driveId : DriveId) (τ : List (Event Scsi))
    (installed : Bool) : Prop :=
  ∃ τ₁ τ₂, τ = τ₁ ++ τ₂ ∧ Run (U.selectBackend driveId).run τ₁ (.ok (.renesas installed))

theorem run_unlock_renesas {r : Except UnlockError (Option Unlocked)} {installed : Bool}
    (h : Run (U.unlock driveId).run τ r) (hu : UsesRenesas U driveId τ installed) :
    ∃ τ₁ τ₂ r', τ = τ₁ ++ τ₂ ∧ Run (U.selectBackend driveId).run τ₁ (.ok (.renesas installed)) ∧
      Run (U.runSelected (.renesas installed)).run τ₂ r' ∧ r = fallthrough r' := by
  obtain ⟨r', hfull, hr⟩ := run_map_iff.mp h
  obtain ⟨τ₁, τ₂, rfl, hsel⟩ := hu
  rcases run_fallible_bind_iff.mp hfull with ⟨e, rfl, h₁⟩ | ⟨σ₁, sel, σ₂, hτ, h₁, h₂⟩
  · cases (run_prefix_unique h₁ hsel (List.append_nil _)).2
  · obtain ⟨rfl, hs⟩ := run_prefix_unique h₁ hsel hτ.symm
    obtain rfl := Except.ok.inj hs
    exact ⟨_, _, r', rfl, h₁, List.append_cancel_left hτ ▸ h₂, hr⟩

theorem issues_selectBackend : Issues Quiet (U.selectBackend driveId).run := by
  refine .seq (issues_probe quiet_command) fun id => ?_
  rcases id with _ | id
  · dsimp only
    split
    · exact .ret _
    split_ifs
    · exact .throw _
    · refine .seq (.seq (.lift (.ask fun _ => quiet_command _ _ _ _ _)) fun _ => .result _)
        fun b => ?_
      split_ifs
      · exact .ret _
      · exact .throw _
  · dsimp only
    split_ifs <;> exact .ret _

/-- Where a data-out stands: inside the one critical span, after the plan was prepared and the
ownership check succeeded, and into a range the plan permits. -/
def Confined (P : Pioneer) (pre : List (Event Scsi)) (a : ℕ) (bytes : List UInt8)
    (post : List (Event Scsi)) : Prop :=
  ∃ (p : Prepared) (before planned checked inner rest after : List (Event Scsi)),
    pre = before ++ planned ++ ⟨.beginCritical, .ok ()⟩ :: (checked ++ inner) ∧
    post = rest ++ ⟨.endCritical, ()⟩ :: after ∧
    Run (prepare P false).run planned (.ok p) ∧
    Run (checkPrepared P p false).run checked (.ok ()) ∧
    (∀ e ∈ before ++ planned ++ checked ++ inner ++ rest ++ after,
      e.1 ≠ .beginCritical ∧ e.1 ≠ .endCritical) ∧
    (∀ e ∈ before ++ planned ++ after, dataOut? e = none) ∧ Permitted p a bytes

theorem Confined.of_span {before planned checked inner after pre post : List (Event Scsi)}
    {e : Event Scsi} {P : Pioneer} {p : Prepared} {a : Option ℕ} {bytes : List UInt8}
    (hprep : Run (prepare P false).run planned (.ok p))
    (hcheck : Run (checkPrepared P p false).run checked (.ok ()))
    (hbefore : ∀ e ∈ before, Quiet e) (hinner : ∀ e ∈ inner, InPlan p e)
    (hafter : ∀ e ∈ after, Quiet e) (hd : dataOut? e = some (a, bytes))
    (hτ : before ++ planned ++ ⟨.beginCritical, .ok ()⟩ ::
      (checked ++ inner ++ ⟨.endCritical, ()⟩ :: after) = pre ++ e :: post) :
    ∃ b, a = some b ∧ Confined P pre b bytes post := by
  have hplanned := issues_prepare quiet_reads _ hprep
  have hchecked := issues_checkPrepared quiet_reads _ hcheck
  have hne : ∀ e', dataOut? e' = none → e' ≠ e := by
    rintro e' he' rfl
    rw [hd] at he'
    cases he'
  -- The data-out is none of the events around the inner part, so it splits that part.
  obtain ⟨inner₁, inner₂, rfl, rfl, rfl⟩ : ∃ inner₁ inner₂, inner = inner₁ ++ e :: inner₂ ∧
      pre = before ++ planned ++ ⟨.beginCritical, .ok ()⟩ :: (checked ++ inner₁) ∧
      post = inner₂ ++ ⟨.endCritical, ()⟩ :: after := by
    have hsplit : before ++ planned ++ ⟨.beginCritical, .ok ()⟩ :: checked ++
        (inner ++ ⟨.endCritical, ()⟩ :: after) = pre ++ e :: post := by simpa using hτ
    rcases split_append hsplit with ⟨mid, hfront, -⟩ | ⟨mid, rfl, hmid⟩
    · have hmem : e ∈ before ++ planned ++ ⟨.beginCritical, .ok ()⟩ :: checked := by
        rw [hfront]; simp
      simp only [List.mem_append, List.mem_cons] at hmem
      rcases hmem with (hmem | hmem) | rfl | hmem
      · exact (hne e (hbefore e hmem).1 rfl).elim
      · exact (hne e (hplanned e hmem).1 rfl).elim
      · exact (hne _ rfl rfl).elim
      · exact (hne e (hchecked e hmem).1 rfl).elim
    · rcases split_cases hmid with ⟨-, rfl, -⟩ | ⟨inner₂, rfl, rfl⟩ | ⟨rest, -, rfl⟩
      · exact (hne _ rfl rfl).elim
      · exact ⟨mid, inner₂, rfl, by simp, rfl⟩
      · exact (hne e (hafter e (by simp)).1 rfl).elim
  obtain ⟨b, rfl, hpermitted⟩ := (hinner e (by simp)).2.2 a bytes hd
  refine ⟨b, rfl, p, before, planned, checked, inner₁, inner₂, after, rfl, rfl, hprep, hcheck, ?_,
    ?_, hpermitted⟩
  · intro e' he'
    simp only [List.mem_append] at he'
    rcases he' with ((((he' | he') | he') | he') | he') | he'
    · exact (hbefore e' he').2
    · exact (hplanned e' he').2
    · exact (hchecked e' he').2
    · exact ⟨(hinner e' (by simp [he'])).1, (hinner e' (by simp [he'])).2.1⟩
    · exact ⟨(hinner e' (by simp [he'])).1, (hinner e' (by simp [he'])).2.1⟩
    · exact (hafter e' he').2
  · intro e' he'
    simp only [List.mem_append] at he'
    rcases he' with (he' | he') | he'
    · exact (hbefore e' he').1
    · exact (hplanned e' he').1
    · exact (hafter e' he').1

theorem quiet_checkpoint : Issues Quiet checkpoint.run :=
  .seq (.lift (.ask fun _ => ⟨rfl, nofun, nofun⟩)) fun _ => .result _

theorem issues_configure : Issues Quiet configure.run :=
  .seq (.lift (.ask fun _ => ⟨rfl, nofun, nofun⟩)) fun _ => .result _

/-- The Renesas sequence writes nothing, or is a fresh one that wrote by plan inside its span. -/
theorem run_selected_cases {installed : Bool} {r : Except UnlockError Unlocked}
    (h : Run (U.runSelected (.renesas installed)).run τ r) :
    (∀ e ∈ τ, dataOut? e = none) ∨ installed = false ∧ ∃ p planned checked inner after,
      τ = planned ++ ⟨.beginCritical, .ok ()⟩ ::
        (checked ++ inner ++ ⟨.endCritical, ()⟩ :: after) ∧
      Run (prepare U.pioneer false).run planned (.ok p) ∧
      Run (checkPrepared U.pioneer p false).run checked (.ok ()) ∧
      (∀ e ∈ inner, InPlan p e) ∧ ∀ e ∈ after, Quiet e := by
  rcases run_fallible_bind_iff.mp h with ⟨e, rfl, h₁⟩ | ⟨planned, s, τ₂, rfl, h₁, h₂⟩
  · have hq : Issues Quiet (prepareBackend U.pioneer .new installed).run :=
      .seq (.mapErr _ (issues_prepare quiet_reads _)) fun _ => .ret _
    exact .inl fun e he => (hq h₁ e he).1
  obtain ⟨p, rfl, hprep⟩ := run_prepareBackend_ok h₁
  have hplanned := issues_prepare quiet_reads _ hprep
  have hrest : ∀ finished : Except UnlockError (Except UnlockError Unlocked), Issues Quiet (do
      let r ← result finished
      checkpoint
      if r.isOk then (backend U.pioneer).tune
      result r : Step Unlocked).run := by
    intro finished
    refine .seq (.result _) fun r => .seq quiet_checkpoint fun _ => ?_
    split_ifs
    · exact .seq issues_configure fun _ => .result _
    · exact .result _
  rcases run_fallible_bind_iff.mp h₂ with ⟨e, rfl, h₃⟩ | ⟨span, f, after, rfl, h₃, h₄⟩
  · rcases run_criticalSpan h₃ with ⟨err, rfl, -⟩ | ⟨τ', a, -, -, ha⟩
    · refine .inl fun e he => ?_
      simp only [List.mem_append, List.mem_singleton] at he
      rcases he with he | rfl
      · exact (hplanned e he).1
      · rfl
    · cases ha
  rcases run_criticalSpan h₃ with ⟨err, -, he⟩ | ⟨τ', a, rfl, hbody, ha⟩
  · cases he
  obtain rfl := Except.ok.inj ha
  have hafter := hrest _ h₄
  rcases run_transaction_cases (run_prepare_placed hprep) hbody with
    hq | ⟨rfl, checked, inner, rfl, hc, hi⟩
  · refine .inl fun e he => ?_
    simp only [List.mem_append, List.mem_cons, List.not_mem_nil, or_false] at he
    rcases he with he | (rfl | he | rfl) | he
    · exact (hplanned e he).1
    · rfl
    · exact (hq e he).1
    · rfl
    · exact (hafter e he).1
  · exact .inr ⟨rfl, p, planned, checked, inner, after, by simp, hprep, hc, hi, hafter⟩

/-- In every run that uses the Renesas backend, each data-out is confined, and a resident hook
is never written to. -/
theorem unlock_confined {r : Except UnlockError (Option Unlocked)} {installed : Bool}
    (h : Run (U.unlock driveId).run τ r) (hu : UsesRenesas U driveId τ installed) :
    ∀ pre e post a bytes, τ = pre ++ e :: post → dataOut? e = some (a, bytes) →
      installed = false ∧ ∃ b, a = some b ∧ Confined U.pioneer pre b bytes post := by
  intro pre e post a bytes hτ hd
  obtain ⟨τ₁, τ₂, r', rfl, hsel, hrun, -⟩ := run_unlock_renesas h hu
  have hbefore := issues_selectBackend hsel
  rcases run_selected_cases hrun with
    hq | ⟨hi, p, planned, checked, inner, after, rfl, hprep, hc, hinner, hafter⟩
  · have hmem : e ∈ τ₁ ++ τ₂ := by rw [hτ]; simp
    have hnone : dataOut? e = none := (List.mem_append.mp hmem).elim (fun he => (hbefore e he).1)
      (hq e)
    rw [hd] at hnone
    cases hnone
  · exact ⟨hi, Confined.of_span hprep hc hbefore hinner hafter hd (by simpa using hτ)⟩

/-! ## A fresh run -/

def sampleUnlocker : FreemkvUnlocker := ⟨none, fun _ => false, samplePioneer⟩

def sampleId : DriveId := ⟨"", "", "", "", ""⟩

/-- A selection of the Renesas backend for a drive without a resident hook. -/
def isFresh : Except UnlockError Selection → Bool
  | .ok (.renesas false) => true
  | _ => false

theorem eq_of_isFresh {r : Except UnlockError Selection} (h : isFresh r = true) :
    r = .ok (.renesas false) := by
  unfold isFresh at h
  split at h
  · rfl
  · cases h

theorem run_unlock_sample : ∃ τ u, Run (sampleUnlocker.unlock sampleId).run τ (.ok (some u)) ∧
    UsesRenesas sampleUnlocker sampleId τ false := by
  have hsel : ((exec (memoryDrive (sampleRespond true)) (sampleUnlocker.selectBackend sampleId).run
      sampleMemory).map fun r => isFresh r.1) = some true := by decide +kernel
  have hfull : ((exec (memoryDrive (sampleRespond true))
      (sampleUnlocker.fullUnlockWithDrive sampleId).run sampleMemory).map fun r => r.1.isOk) =
        some true := by decide +kernel
  obtain ⟨⟨r, τ, M⟩, he, hok⟩ := Option.map_eq_some_iff.mp hfull
  obtain ⟨⟨s, τ₁, M₁⟩, hs, hfresh⟩ := Option.map_eq_some_iff.mp hsel
  cases r with
  | error e => cases hok
  | ok u =>
    refine ⟨τ, u, run_map_iff.mpr ⟨.ok u, run_of_exec he, rfl⟩, ?_⟩
    rcases exec_seq_some he with ⟨e, hr, -⟩ | ⟨a, ρ₁, t, ρ₂, hx, -, rfl⟩
    · cases hr
    rw [hx] at hs
    obtain ⟨rfl, rfl, rfl⟩ := Prod.mk.inj (Option.some.inj hs) |>.imp id Prod.mk.inj
    have ha : Except.ok a = .ok (.renesas false) := eq_of_isFresh hfresh
    exact ⟨_, _, rfl, run_of_exec (ha ▸ hx)⟩

theorem unlock_confined_sample : ∃ τ, UsesRenesas sampleUnlocker sampleId τ false ∧
    ∀ pre e post a bytes, τ = pre ++ e :: post → dataOut? e = some (a, bytes) →
      false = false ∧ ∃ b, a = some b ∧ Confined samplePioneer pre b bytes post := by
  obtain ⟨τ, u, h, hu⟩ := run_unlock_sample
  exact ⟨τ, hu, unlock_confined h hu⟩

end FreemkvUnlock.Renesas
