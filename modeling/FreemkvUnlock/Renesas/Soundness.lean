import Mathlib.Data.List.Forall2
import FreemkvUnlock.Renesas.Confinement

/-! # Soundness of a reported unlock

A run that reports an unlocked drive through the Renesas backend has activated it with the exact
reply, and after its last write has read back everything the resident hook relies on.
-/

namespace FreemkvUnlock.Renesas

open Bytes Interaction Fallible Freemkv Protocol

/-- The events are completed reads of these bytes at these addresses, in order. -/
abbrev Observed (τ : List (Event Scsi)) (os : List (ℕ × List UInt8)) : Prop :=
  List.Forall₂ (fun e o => Reads e o.1 o.2) τ os

def Prepared.activatedReads (p : Prepared) : List (ℕ × List UInt8) :=
  [(p.sites.loaded, [0]), (p.sites.checked, [1]), (p.sites.result, [0])]

def Prepared.residentReads (p : Prepared) : List (ℕ × List UInt8) :=
  (p.sites.securitySlot, u32ToBeBytes p.policyTable) ::
    (p.profile.guards.map fun g => (g.cpuAddress, g.expected)) ++
    [(p.profile.pointerAddress, p.installedPointer), (p.sites.vid.slot, p.vidInstalledPointer),
      (p.profile.writePointerAddress, u32ToBeBytes p.profile.writeOriginalTable),
      (p.allocation.start, p.payload)]

variable {P : Pioneer} {p : Prepared} {profile : Profile} {τ : List (Event Scsi)}

theorem Observed.append {τ' : List (Event Scsi)} {os os' : List (ℕ × List UInt8)}
    (h : Observed τ os) (h' : Observed τ' os') : Observed (τ ++ τ') (os ++ os') :=
  List.rel_append h h'

theorem Observed.dataOut? {os : List (ℕ × List UInt8)} (h : Observed τ os) :
    ∀ e ∈ τ, dataOut? e = none := by
  induction h with
  | nil => nofun
  | cons hr _ ih =>
    rw [List.forall_mem_cons]
    exact ⟨hr.fetches.dataOut?, ih⟩

theorem observed_expect {cpu n : ℕ} {bytes : List UInt8} {u : Unit}
    (hb : profile.controllerCpuBase = 0xa00000)
    (h : Run (expect P profile cpu n bytes).run τ (.ok u)) : Observed τ [(cpu, bytes)] := by
  obtain ⟨e, rfl, -, hr⟩ := run_expect_ok hb h
  exact .cons hr .nil

theorem observed_checkGuards {u : Unit} (hb : profile.controllerCpuBase = 0xa00000)
    (h : Run (checkGuards P profile).run τ (.ok u)) :
    Observed τ (profile.guards.map fun g => (g.cpuAddress, g.expected)) := by
  obtain ⟨_, _, ρ, rfl, h₁, h₂⟩ := run_fallible_bind_ok_iff.mp h
  obtain ⟨rfl, -⟩ := run_ensure_ok_iff.mp h₁
  rw [List.nil_append]
  clear h h₁
  generalize profile.guards = gs at h₂
  induction gs generalizing ρ with
  | nil =>
    obtain ⟨rfl, -⟩ := run_fallible_pure_iff.mp h₂
    exact .nil
  | cons g gs ih =>
    obtain ⟨τ₁, _, τ₂, rfl, h₃, h₄⟩ := run_fallible_bind_ok_iff.mp h₂
    obtain ⟨_, _, _, rfl, h₅, h₆⟩ := run_fallible_bind_ok_iff.mp h₃
    obtain ⟨rfl, -⟩ := run_ensure_ok_iff.mp h₅
    exact Observed.append (observed_expect hb h₆) (ih _ h₄)

theorem observed_verifyState {u : Unit} (hb : p.profile.controllerCpuBase = 0xa00000)
    (h : Run (verifyState P p).run τ (.ok u)) : Observed τ p.activatedReads := by
  obtain ⟨_, _, _, rfl, h₁, h⟩ := run_fallible_bind_ok_iff.mp h
  obtain ⟨_, _, _, rfl, h₂, h⟩ := run_fallible_bind_ok_iff.mp h
  exact .append (observed_expect hb h₁) (.append (observed_expect hb h₂) (observed_expect hb h))

theorem observed_verifyResident {u : Unit} (hb : p.profile.controllerCpuBase = 0xa00000)
    (h : Run (verifyResident P p).run τ (.ok u)) :
    Observed τ p.residentReads ∧ p.payload.length % 2 ^ 32 = p.payload.length := by
  obtain ⟨_, _, _, rfl, h₁, h⟩ := run_fallible_bind_ok_iff.mp h
  obtain ⟨_, _, _, rfl, h₂, h⟩ := run_fallible_bind_ok_iff.mp h
  obtain ⟨_, _, _, rfl, h₃, h⟩ := run_fallible_bind_ok_iff.mp h
  obtain ⟨_, _, _, rfl, h₄, h⟩ := run_fallible_bind_ok_iff.mp h
  obtain ⟨_, _, _, rfl, h₅, h⟩ := run_fallible_bind_ok_iff.mp h
  constructor
  · have hall := Observed.append (observed_expect hb h₁) (.append (observed_checkGuards hb h₂)
      (.append (observed_expect hb h₃) (.append (observed_expect hb h₄)
        (.append (observed_expect hb h₅) (observed_expect hb h)))))
    exact hall
  · obtain ⟨_, -, hl, -⟩ := run_expect_ok hb h
    exact hl.symm

/-! ## Replies -/

/-- The SET of encryption to off, completed with exactly 64 zero bytes. -/
def EncryptionOff (e : Event Scsi) : Prop :=
  ∃ (o : Outcome minAllocLen) (r : ScsiResult),
    e = ⟨.execute (buildSetCdb .encryption stateOff) .fromDevice (List.replicate minAllocLen 0)
      30000, o⟩ ∧ o.result = .ok r ∧ r.status = 0 ∧ r.bytesTransferred = 64 ∧
      o.data.toList = List.replicate 64 0

def RuntimeIdentity (e : Event Scsi) : Prop :=
  ∃ (o : Outcome memreadLen) (r : ScsiResult) (id : ProtocolIdentity),
    e = ⟨.execute (buildIdentityCdb memreadLen) .fromDevice (List.replicate memreadLen 0) 5000, o⟩ ∧
      o.result = .ok r ∧ r.status = 0 ∧
      ProtocolIdentity.parse (o.data.toList.take r.bytesTransferred) = some id ∧
      id.capabilities = .pioneerRuntime

theorem probeReply_some {o : Outcome memreadLen} {id : ProtocolIdentity}
    (h : probeReply o = .ok (some id)) : ∃ r, o.result = .ok r ∧ r.status = 0 ∧
      ProtocolIdentity.parse (o.data.toList.take r.bytesTransferred) = some id := by
  unfold probeReply at h
  split at h
  · rename_i r hr
    split_ifs at h with hc
    · refine ⟨r, hr, hc.1, ?_⟩
      dsimp only at h
      split at h
      · rename_i id' hid
        obtain rfl := Option.some.inj (Except.ok.inj h)
        exact hid
      · split_ifs at h
        cases h
    · cases h
  · split_ifs at h
    cases h

theorem run_confirmInstalled_fresh {u : Unit}
    (h : Run (confirmInstalled (backend P) false).run τ (.ok u)) :
    ∃ e, τ = [e] ∧ RuntimeIdentity e := by
  simp only [confirmInstalled, Bool.false_eq_true, ↓reduceIte] at h
  obtain ⟨τ₁, id?, τ₂, rfl, h₁, h₂⟩ := run_fallible_bind_ok_iff.mp h
  obtain ⟨τ₃, id, τ₄, rfl, h₃, h₄⟩ := run_fallible_bind_ok_iff.mp h₂
  obtain ⟨rfl, hid⟩ := run_result_iff.mp h₃
  obtain rfl := okOr_eq_ok_iff.mp hid.symm
  obtain ⟨rfl, hcap⟩ := run_ensure_ok_iff.mp h₄
  obtain ⟨o, rfl, ho⟩ := run_ask_result_iff.mp h₁
  obtain ⟨r, hr, hs, hp⟩ := probeReply_some ho.symm
  exact ⟨_, rfl, o, r, id, rfl, hr, hs, hp, hcap⟩

theorem setReply_ok {o : Outcome minAllocLen} {u : Unit}
    (h : setReply (backend P) o = .ok u) : ∃ r, o.result = .ok r ∧ r.status = 0 ∧
      r.bytesTransferred = 64 ∧ o.data.toList = List.replicate 64 0 := by
  unfold setReply at h
  split at h
  · rename_i r hr
    split_ifs at h with hs
    change validateSetReply r o.data.toList = .ok u at h
    unfold validateSetReply at h
    split_ifs at h with hv
    exact ⟨r, hr, hs, hv⟩
  · cases h

theorem run_activate_ok {u : Unit} (h : Run (activate (backend P)).run τ (.ok u)) :
    ∃ optional e, τ = optional ++ [e] ∧ EncryptionOff e := by
  obtain ⟨τ₁, _, τ₂, rfl, h₁, h₂⟩ := run_fallible_bind_ok_iff.mp h
  obtain ⟨_, _, τ₃, rfl, h₃, h₄⟩ := run_fallible_bind_ok_iff.mp h₂
  obtain ⟨rfl, -⟩ := run_ensure_ok_iff.mp h₃
  obtain ⟨o, rfl, ho⟩ := run_ask_result_iff.mp (run_mapErr_ok_iff.mp h₄)
  obtain ⟨r, hr⟩ := setReply_ok ho.symm
  exact ⟨τ₁, _, rfl, o, r, rfl, hr⟩

/-- A successful activation: the SET, the state bytes, the resident checks, the Volume ID. -/
theorem run_activateBackend_ok {installed : Bool} {u : Unlocked}
    (hb : p.profile.controllerCpuBase = 0xa00000)
    (h : Run (activateBackend (backend P) (.committed p installed)).run τ (.ok u)) :
    ∃ optional e state rest, τ = optional ++ e :: (state ++ rest) ∧ EncryptionOff e ∧
      Observed state p.activatedReads ∧ ∀ e ∈ rest, Quiet e := by
  obtain ⟨τ₁, _, τ₂, rfl, h₁, h₂⟩ := run_fallible_bind_ok_iff.mp h
  obtain ⟨τ₃, _, τ₄, rfl, h₃, h₄⟩ := run_fallible_bind_ok_iff.mp h₂
  obtain ⟨τ₅, vid, τ₆, rfl, h₅, h₆⟩ := run_fallible_bind_ok_iff.mp h₄
  obtain ⟨rfl, -⟩ := run_fallible_pure_iff.mp h₆
  obtain ⟨optional, e, rfl, he⟩ := run_activate_ok h₁
  obtain ⟨_, p', τ₇, rfl, hres, h₇⟩ := run_fallible_bind_ok_iff.mp h₃
  obtain ⟨rfl, hp'⟩ := run_result_iff.mp hres
  obtain rfl : p' = p := Except.ok.inj hp'
  obtain ⟨τ₈, _, τ₉, rfl, h₈, h₉⟩ := run_fallible_bind_ok_iff.mp h₇
  refine ⟨optional, e, τ₈, τ₉ ++ τ₅, by simp, he,
    observed_verifyState hb (run_mapErr_ok_iff.mp h₈), fun e he => ?_⟩
  rcases List.mem_append.mp he with he | he
  · exact issues_verifyResident quiet_reads (run_mapErr_ok_iff.mp h₉) e he
  · exact issues_readAacsVid quiet_command h₅ e he

/-! ## The whole run -/

theorem run_finish_ok {installed : Bool} {u : Unit}
    (h : Run (finish P (.committed p installed) true).run τ (.ok u)) :
    Run (verifyResident P p).run τ (.ok ()) := by
  obtain ⟨τ₁, v, τ₂, rfl, h₁, h₂⟩ := run_fallible_bind_ok_iff.mp h
  split_ifs at h₂ with hv
  · obtain ⟨rfl, -⟩ := run_fallible_pure_iff.mp h₂
    obtain ⟨r, hr, hok⟩ := run_map_iff.mp (run_lift_ok_iff.mp h₁)
    rw [List.append_nil]
    cases r with
    | error e => cases hok.symm.trans hv
    | ok w => exact hr
  · obtain ⟨_, _, _, -, -, h₃⟩ := run_fallible_bind_ok_iff.mp h₂
    cases (run_throw_iff.mp h₃).2

/-- What a run that reports an unlocked drive has seen, in order. -/
def SeenUnlocked (P : Pioneer) (τ : List (Event Scsi)) (installed : Bool) : Prop :=
  ∃ (p : Prepared) (before : List (Event Scsi)) (off : Event Scsi)
      (state between resident after : List (Event Scsi)),
    τ = before ++ off :: (state ++ between ++ resident ++ after) ∧
    EncryptionOff off ∧ Observed state p.activatedReads ∧ Observed resident p.residentReads ∧
    p.allocation = .sized p.allocation.start p.payload.length ∧
    (∀ e ∈ state ++ between ++ resident ++ after, dataOut? e = none) ∧
    (∃ planned, planned <:+: before ∧ Run (prepare P installed).run planned (.ok p)) ∧
    (installed = false → ∃ pre staged identity rest,
      before = pre ++ staged ++ identity :: rest ∧ Run (stage P p).run staged (.ok ()) ∧
        RuntimeIdentity identity)

theorem run_transaction_ok (hp : p.Placed) {installed : Bool} {u : Unlocked}
    (h : Run (transaction (backend P) (.planned p installed) installed) τ (.ok (.ok u))) :
    ∃ before off state between resident, τ = before ++ off :: (state ++ between ++ resident) ∧
      EncryptionOff off ∧ Observed state p.activatedReads ∧ Observed resident p.residentReads ∧
      p.allocation = .sized p.allocation.start p.payload.length ∧
      (∀ e ∈ state ++ between ++ resident, dataOut? e = none) ∧
      (installed = false → ∃ pre staged identity rest,
        before = pre ++ staged ++ identity :: rest ∧ Run (stage P p).run staged (.ok ()) ∧
          RuntimeIdentity identity) := by
  obtain ⟨τ₁, ⟨a, s⟩, τ₂, rfl, h₁, h₂⟩ := run_bind_iff.mp h
  obtain ⟨τ₃, ⟨i, s'⟩, τ₄, rfl, h₃, h₄⟩ := run_bind_iff.mp h₁
  obtain ⟨τ₅, f, τ₆, rfl, h₅, h₆⟩ := run_bind_iff.mp h₂
  obtain ⟨rfl, hf⟩ := run_pure_iff.mp h₆
  cases f with
  | error e => cases hf
  | ok v =>
  obtain rfl : .ok u = a := Except.ok.inj hf
  rcases run_install h₃ with ⟨rfl, ⟨e, rfl⟩, -⟩ | ⟨rfl, checked, staged, rfl, hc, hstaged⟩
  · cases (Prod.mk.inj (run_pure_iff.mp h₄).2).1
  cases i with
  | error e => cases (Prod.mk.inj (run_pure_iff.mp h₄).2).1
  | ok w =>
  obtain ⟨τ₇, a, τ₈, rfl, h₇, h₈⟩ := run_bind_iff.mp h₄
  obtain ⟨rfl, hs⟩ := run_pure_iff.mp h₈
  obtain ⟨rfl, rfl⟩ := Prod.mk.inj hs
  obtain ⟨confirm, _, act, rfl, hconfirm, hact⟩ := run_fallible_bind_ok_iff.mp h₇
  obtain ⟨optional, off, state, rest, rfl, hoff, hstate, hrest⟩ :=
    run_activateBackend_ok hp.base hact
  have hres := run_finish_ok h₅
  obtain ⟨hresident, hlen⟩ := observed_verifyResident hp.base hres
  refine ⟨checked ++ staged ++ confirm ++ optional, off, state, rest, τ₅, by simp, hoff, hstate,
    hresident, ?_, fun e he => ?_, fun hi => ?_⟩
  · rw [← hlen, hp.payload]
    exact hp.sized
  · simp only [List.mem_append] at he
    rcases he with (he | he) | he
    · exact hstate.dataOut? e he
    · exact (hrest e he).1
    · exact (issues_verifyResident quiet_reads hres e he).1
  · subst hi
    rcases hstaged with ⟨hi, -, -⟩ | ⟨-, hstage⟩
    · cases hi
    obtain ⟨identity, rfl, hid⟩ := run_confirmInstalled_fresh hconfirm
    exact ⟨checked, staged, identity, optional, by simp, run_mapErr_ok_iff.mp hstage, hid⟩

/-- A run that reports an unlocked drive through the Renesas backend has seen it unlocked. -/
theorem unlock_sound {U : FreemkvUnlocker} {driveId : DriveId} {u : Unlocked} {installed : Bool}
    (h : Run (U.unlock driveId).run τ (.ok (some u))) (hu : UsesRenesas U driveId τ installed) :
    SeenUnlocked U.pioneer τ installed := by
  obtain ⟨τ₁, τ₂, r', rfl, -, hrun, hr⟩ := run_unlock_renesas h hu
  obtain rfl : r' = .ok u := by
    rcases r' with e | v
    · cases e <;> cases hr
    · cases hr; rfl
  obtain ⟨planned, s, τ₃, rfl, h₁, h₂⟩ := run_fallible_bind_ok_iff.mp hrun
  obtain ⟨p, rfl, hprep⟩ := run_prepareBackend_ok h₁
  obtain ⟨span, f, after, rfl, h₃, h₄⟩ := run_fallible_bind_ok_iff.mp h₂
  rcases run_criticalSpan h₃ with ⟨_, -, hf⟩ | ⟨body, a, rfl, hbody, ha⟩
  · cases hf
  obtain rfl := Except.ok.inj ha
  obtain ⟨_, r, τ₄, rfl, h₅, h₆⟩ := run_fallible_bind_ok_iff.mp h₄
  obtain ⟨rfl, rfl⟩ := run_result_iff.mp h₅
  obtain ⟨τ₅, _, τ₆, rfl, h₇, h₈⟩ := run_fallible_bind_ok_iff.mp h₆
  obtain ⟨τ₇, rfl, hafter⟩ : ∃ v, r = .ok v ∧ ∀ e ∈ τ₆, dataOut? e = none := by
    cases r with
    | error e =>
      simp only [Except.isOk, Except.toBool, Bool.false_eq_true, ↓reduceIte] at h₈
      cases (run_result_iff.mp h₈).2
    | ok v =>
      refine ⟨v, rfl, fun e he => ?_⟩
      have hq : Issues Quiet (do
          configure
          result (.ok v) : Step Unlocked).run := .seq issues_configure fun _ => .result _
      exact (hq h₈ e he).1
  obtain rfl : τ₇ = u := by
    obtain ⟨_, _, _, -, -, h₉⟩ := run_fallible_bind_ok_iff.mp h₈
    exact (Except.ok.inj (run_result_iff.mp h₉).2).symm
  obtain ⟨before, off, state, between, resident, rfl, hoff, hstate, hresident, halloc, hquiet,
    hfresh⟩ := run_transaction_ok (run_prepare_placed hprep) hbody
  refine ⟨p, τ₁ ++ planned ++ ⟨.beginCritical, .ok ()⟩ :: before, off, state, between, resident,
    ⟨.endCritical, ()⟩ :: (τ₅ ++ τ₆), by simp, hoff, hstate, hresident, halloc, fun e he => ?_,
    ⟨planned, ⟨τ₁, ⟨.beginCritical, .ok ()⟩ :: before, by simp⟩, hprep⟩, fun hi => ?_⟩
  · simp only [List.mem_append, List.mem_cons] at he hquiet
    rcases he with he | rfl | he | he
    · exact hquiet e he
    · rfl
    · exact (quiet_checkpoint h₇ e he).1
    · exact hafter e he
  · obtain ⟨pre, staged, identity, rest, rfl, hstage, hid⟩ := hfresh hi
    exact ⟨τ₁ ++ planned ++ ⟨.beginCritical, .ok ()⟩ :: pre, staged, identity, rest, by simp,
      hstage, hid⟩

theorem unlock_sound_sample : ∃ τ, UsesRenesas sampleUnlocker sampleId τ false ∧
    SeenUnlocked samplePioneer τ false := by
  obtain ⟨τ, u, h, hu⟩ := run_unlock_sample
  exact ⟨τ, hu, unlock_sound h hu⟩

end FreemkvUnlock.Renesas
