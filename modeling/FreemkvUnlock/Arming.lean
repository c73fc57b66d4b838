import FreemkvUnlock.DeadBus
import FreemkvUnlock.Firmware
import Mathlib.Data.Option.Basic

/-! # Arming as a walk

A recipe is a list of acknowledgements to collect from the drive. A run of it walks along that
list, one command for each, and stops at the first that the drive does not give.
-/

namespace FreemkvUnlock.Firmware

open Interaction Fallible Protocol

/-! ## Steps -/

inductive Step
  | identity
  | set (feature : Feature) (state : UInt8)
  | get (feature : Feature) (wanted : UInt8)
  | reset
  deriving DecidableEq

namespace Step

def cdb : Step → List UInt8
  | identity => buildIdentityCdb memreadLen
  | set feature state => buildSetCdb feature state
  | get feature _ => buildGetCdb feature
  | reset => buildResetCdb resetToOem

def perform : Step → Control Unit
  | identity => requireSupported
  | set feature state => Firmware.set feature state
  | get feature wanted => verify feature wanted
  | reset => Firmware.reset

def event (s : Step) (o : Outcome memreadLen) : Event Scsi :=
  ⟨.execute s.cdb .fromDevice (List.replicate memreadLen 0) cmdTimeoutMs, o⟩

end Step

/-- A setting with its confirmation. -/
def settled (p : Feature × UInt8) : List Step := [.set p.1 p.2, .get p.1 p.2]

def ArmRecipe.settings : ArmRecipe → List (Feature × UInt8)
  | .oemBd => [(.hrl, stateOff)]
  | .oemUhd => [(.unrestricted, stateOn), (.hrl, stateOff), (.encryption, stateOff)]
  | .bypassBd => [(.hrl, stateOff), (.encryption, stateOff)]
  | .bypassUhd => [(.unrestricted, stateOn), (.hrl, stateOff), (.encryption, stateOff)]
  | .stealthOem => []

/-- What a recipe asks for once the identity is supported. -/
def ArmRecipe.tail : ArmRecipe → List Step
  | .stealthOem => .reset :: allFeatures.map (Step.get · statePassthrough)
  | recipe => recipe.settings.flatMap settled

def ArmRecipe.steps (recipe : ArmRecipe) : List Step := .identity :: recipe.tail

/-- A recipe that turns encryption off does so last. -/
theorem ArmRecipe.settings_of_disablesEncryption {recipe : ArmRecipe}
    (h : recipe.disablesEncryption = true) :
    recipe.tail = recipe.settings.flatMap settled ∧
      recipe.settings.getLast? = some (.encryption, stateOff) := by
  cases recipe <;> first | exact ⟨rfl, rfl⟩ | cases h

theorem arm_eq_forM (recipe : ArmRecipe) : arm recipe = recipe.steps.forM Step.perform := by
  cases recipe <;>
    simp [arm, armOemBd, armOemUhd, armBypassBd, armBypassUhd, armStealthOem, ArmRecipe.steps,
      ArmRecipe.tail, ArmRecipe.settings, settled, Step.perform, setVerify, allFeatures]

/-! ## Answers -/

section Answers

variable {o : Outcome memreadLen} {s : Step}

def Good (o : Outcome memreadLen) : Prop := ∃ r, o.result = .ok r ∧ r.status = 0

def delivered (o : Outcome memreadLen) : List UInt8 :=
  match o.result with
  | .ok r => o.data.toList.take r.bytesTransferred
  | .error _ => []

def Step.Acked : Step → Outcome memreadLen → Prop
  | .identity, o =>
    Good o ∧ (FirmwareIdentity.parse (delivered o)).any (·.isSupported) = true
  | .set _ _, o | .reset, o => Good o
  | .get _ wanted, o => Good o ∧ (delivered o).head? = some wanted

/-- What a step makes of its answer. -/
def Step.judge : Step → Outcome memreadLen → Except FirmwareError Unit
  | .identity, o => identityReply (inReply o) >>= fun id =>
    check (id.any (·.isSupported)) .unsupportedFirmware
  | .set _ _, o | .reset, o => inReply o >>= fun _ => .ok ()
  | .get feature wanted, o => inReply o >>= fun reply => stateReply reply >>= fun got =>
    check (got = wanted) (.verifyFailed feature wanted got)

theorem inReply_cases (o : Outcome memreadLen) :
    (Good o ∧ ¬ FoundDead o.result ∧ ∃ n, inReply o = .ok (o.data.toList, n) ∧
      delivered o = o.data.toList.take n) ∨
    (FoundDead o.result ∧ ¬ Good o ∧ inReply o = .error .transport) ∨
    (¬ FoundDead o.result ∧ ¬ Good o ∧ inReply o = .error .rejected) := by
  unfold inReply Good delivered FoundDead
  rcases o.result with e | r
  · by_cases he : isDeadBus e = true
    · exact .inr (.inl ⟨⟨e, rfl, he⟩, nofun, by simp [he]⟩)
    · refine .inr (.inr ⟨?_, nofun, by simp [he]⟩)
      rintro ⟨_, ⟨⟩, h⟩
      exact he h
  · by_cases hr : r.status = 0
    · exact .inl ⟨⟨r, rfl, hr⟩, nofun, r.bytesTransferred, by simp [hr], rfl⟩
    · refine .inr (.inr ⟨nofun, ?_, by simp [hr]⟩)
      rintro ⟨_, ⟨⟩, h⟩
      exact hr h

theorem head?_take_eq_some_iff {data : List UInt8} (hdata : data ≠ []) {n : ℕ} {b : UInt8} :
    (data.take n).head? = some b ↔ n ≠ 0 ∧ data.headD 0 = b := by
  obtain ⟨a, data, rfl⟩ := List.exists_cons_of_ne_nil hdata
  cases n <;> simp

theorem Step.judge_cases (s : Step) (o : Outcome memreadLen) :
    (s.Acked o ∧ s.judge o = .ok ()) ∨
    (FoundDead o.result ∧ s.judge o = .error .transport) ∨
    (¬ s.Acked o ∧ ¬ FoundDead o.result ∧ ∃ e ≠ .transport, s.judge o = .error e) := by
  rcases inReply_cases o with ⟨hgood, hlive, n, hreply, hn⟩ | ⟨hdead, -, hreply⟩ |
    ⟨hlive, hbad, hreply⟩
  · cases s with
    | identity =>
      simp only [judge, Acked, hreply, hn, hgood, hlive, true_and]
      by_cases hid : (FirmwareIdentity.parse (o.data.toList.take n)).any (·.isSupported) = true
      · exact .inl ⟨hid, by simp [identityReply, check, hid, bind, Except.bind]⟩
      · exact .inr (.inr ⟨hid, not_false, .unsupportedFirmware, nofun,
          by simp [identityReply, check, hid, bind, Except.bind]⟩)
    | set | reset => exact .inl ⟨hgood, by simp [judge, hreply, bind, Except.bind]⟩
    | get feature wanted =>
      have hdata : o.data.toList ≠ [] := by
        rw [← List.length_pos_iff, Vector.length_toList]
        decide
      simp only [judge, Acked, hreply, hn, hgood, hlive, true_and, bind, Except.bind, stateReply,
        head?_take_eq_some_iff hdata]
      by_cases hz : n = 0
      · exact .inr (.inr ⟨fun h => h.1 hz, not_false, .rejected, nofun, by rw [if_pos hz]⟩)
      · rw [if_neg hz]
        by_cases hw : o.data.toList.headD 0 = wanted
        · exact .inl ⟨⟨hz, hw⟩, if_pos hw⟩
        · exact .inr (.inr ⟨fun h => hw h.2, not_false, .verifyFailed feature wanted _, nofun,
            if_neg hw⟩)
  · refine .inr (.inl ⟨hdead, ?_⟩)
    cases s <;> simp [judge, hreply, identityReply, bind, Except.bind]
  · have hrefused : ¬ s.Acked o := by
      cases s with
      | identity | get => exact fun h => hbad h.1
      | set | reset => exact hbad
    refine .inr (.inr ⟨hrefused, hlive, ?_⟩)
    cases s with
    | identity => exact ⟨.unsupportedFirmware, nofun, by
        simp [judge, hreply, identityReply, check, bind, Except.bind]⟩
    | set | reset | get => exact ⟨.rejected, nofun, by simp [judge, hreply, bind, Except.bind]⟩

theorem not_acked_of_foundDead {s : Step} {o : Outcome memreadLen} (h : FoundDead o.result) :
    ¬ s.Acked o := by
  obtain ⟨e, he, -⟩ := h
  have hbad : ¬ Good o := by
    rintro ⟨r, hr, -⟩
    rw [hr] at he
    cases he
  cases s with
  | identity | get => exact fun h => hbad h.1
  | set | reset => exact hbad

end Answers

section Runs

variable {τ : List (Event Scsi)} {s : Step}

theorem result_bind_result {α β : Type} {x : Except FirmwareError α}
    {f : α → Except FirmwareError β} :
    (result x >>= fun a => result (f a) : Control β) = result (x >>= f) := by
  cases x <;> rfl

theorem ensure_eq_result {c : Prop} [Decidable c] {e : FirmwareError} :
    (ensure c e : Control Unit) = result (check c e) := by
  unfold ensure check
  split_ifs <;> rfl

theorem Step.perform_eq (s : Step) : s.perform =
    ExceptT.lift (Scsi.execute s.cdb .fromDevice (List.replicate memreadLen 0) cmdTimeoutMs) >>=
      fun o => result (s.judge o) := by
  cases s with
  | identity =>
    have hid : Firmware.identity = ExceptT.lift (Scsi.execute (buildIdentityCdb memreadLen)
        .fromDevice (List.replicate memreadLen 0) cmdTimeoutMs) >>=
          fun o => result (identityReply (inReply o)) := rfl
    simp only [perform, requireSupported, hid, bind_assoc, ensure_eq_result, result_bind_result]
    rfl
  | set feature state =>
    have hpure : (pure () : Control Unit) = result (.ok ()) := rfl
    simp only [perform, Firmware.set, execIn, hpure, bind_assoc, result_bind_result]
    rfl
  | get feature wanted =>
    simp only [perform, verify, Firmware.get, execIn, bind_assoc, ensure_eq_result,
      result_bind_result]
    rfl
  | reset =>
    have hpure : (pure () : Control Unit) = result (.ok ()) := rfl
    simp only [perform, Firmware.reset, execIn, hpure, bind_assoc, result_bind_result]
    rfl

theorem run_perform_iff {r : Except FirmwareError Unit} :
    Run s.perform.run τ r ↔ ∃ o, τ = [s.event o] ∧ r = s.judge o := by
  rw [s.perform_eq]
  exact run_ask_result_iff

/-! ## Walks -/

inductive Ending
  | armed
  | refused
  | dead
  deriving DecidableEq

def Ending.of : Except FirmwareError Unit → Ending
  | .ok () => .armed
  | .error .transport => .dead
  | .error _ => .refused

inductive Walk : List Step → List (Event Scsi) → Ending → Prop
  | armed : Walk [] [] .armed
  | acked {s ss o τ e} : s.Acked o → Walk ss τ e → Walk (s :: ss) (s.event o :: τ) e
  | refused {s ss o} : ¬ s.Acked o → ¬ FoundDead o.result → Walk (s :: ss) [s.event o] .refused
  | dead {s ss o} : FoundDead o.result → Walk (s :: ss) [s.event o] .dead

theorem walk_cons_of_judge {ss : List Step} {o : Outcome memreadLen} {e : FirmwareError}
    (h : s.judge o = .error e) : Walk (s :: ss) [s.event o] (.of (.error e)) := by
  rcases s.judge_cases o with ⟨-, hok⟩ | ⟨hdead, hj⟩ | ⟨hack, hlive, e', hne, hj⟩
  · rw [hok] at h
    cases h
  · obtain rfl := Except.error.inj (h.symm.trans hj)
    exact .dead hdead
  · obtain rfl := Except.error.inj (h.symm.trans hj)
    have hend : Ending.of (.error e) = .refused := by
      cases e <;> first | rfl | exact absurd rfl hne
    rw [hend]
    exact .refused hack hlive

theorem acked_iff_judge {o : Outcome memreadLen} : s.Acked o ↔ s.judge o = .ok () := by
  rcases s.judge_cases o with ⟨hack, hok⟩ | ⟨hdead, hj⟩ | ⟨hack, -, e, -, hj⟩
  · exact iff_of_true hack hok
  · exact iff_of_false (not_acked_of_foundDead hdead) (by rw [hj]; nofun)
  · exact iff_of_false hack (by rw [hj]; nofun)

/-- Performing steps is walking along them. -/
theorem run_forM_perform_walk {ss : List Step} {r : Except FirmwareError Unit}
    (h : Run (ss.forM Step.perform).run τ r) : Walk ss τ (.of r) := by
  induction ss generalizing τ with
  | nil =>
    obtain ⟨rfl, rfl⟩ := run_fallible_pure_iff.mp h
    exact .armed
  | cons s ss ih =>
    change Run (s.perform >>= fun _ => ss.forM Step.perform).run τ r at h
    rcases run_fallible_bind_iff.mp h with ⟨e, rfl, h₁⟩ | ⟨τ₁, _, τ₂, rfl, h₁, h₂⟩
    · obtain ⟨o, rfl, hj⟩ := run_perform_iff.mp h₁
      exact walk_cons_of_judge hj.symm
    · obtain ⟨o, rfl, hj⟩ := run_perform_iff.mp h₁
      exact .acked (acked_iff_judge.mpr hj.symm) (ih h₂)

theorem exists_run_forM_perform {ss : List Step} {e : Ending} (h : Walk ss τ e) :
    ∃ r, Run (ss.forM Step.perform).run τ r ∧ Ending.of r = e := by
  induction h with
  | armed => exact ⟨.ok (), run_fallible_pure_iff.mpr ⟨rfl, rfl⟩, rfl⟩
  | @acked s ss o τ e hack _ ih =>
    obtain ⟨r, hr, he⟩ := ih
    refine ⟨r, run_fallible_bind_iff.mpr (.inr ⟨[s.event o], (), τ, rfl, ?_, hr⟩), he⟩
    exact run_perform_iff.mpr ⟨o, rfl, (acked_iff_judge.mp hack).symm⟩
  | @refused s ss o hack hlive =>
    rcases s.judge_cases o with ⟨h, -⟩ | ⟨h, -⟩ | ⟨-, -, e, hne, hj⟩
    · exact absurd h hack
    · exact absurd h hlive
    · refine ⟨.error e, run_fallible_bind_iff.mpr (.inl ⟨e, rfl, ?_⟩), ?_⟩
      · exact run_perform_iff.mpr ⟨o, rfl, hj.symm⟩
      · cases e <;> first | rfl | exact absurd rfl hne
  | @dead s ss o hdead =>
    rcases s.judge_cases o with ⟨h, -⟩ | ⟨-, hj⟩ | ⟨-, h, -⟩
    · exact absurd h (not_acked_of_foundDead hdead)
    · exact ⟨.error .transport, run_fallible_bind_iff.mpr (.inl ⟨_, rfl,
        run_perform_iff.mpr ⟨o, rfl, hj.symm⟩⟩), rfl⟩
    · exact absurd hdead h

theorem run_arm_walk {recipe : ArmRecipe} {r : Except FirmwareError Unit}
    (h : Run (arm recipe).run τ r) : Walk recipe.steps τ (.of r) :=
  run_forM_perform_walk (arm_eq_forM recipe ▸ h)

theorem exists_run_arm {recipe : ArmRecipe} {e : Ending} (h : Walk recipe.steps τ e) :
    ∃ r, Run (arm recipe).run τ r ∧ Ending.of r = e := by
  rw [arm_eq_forM]
  exact exists_run_forM_perform h

theorem walk_cons_iff {ss : List Step} {e : Ending} : Walk (s :: ss) τ e ↔
    ∃ o τ', τ = s.event o :: τ' ∧ ((s.Acked o ∧ Walk ss τ' e) ∨
      (¬ s.Acked o ∧ ¬ FoundDead o.result ∧ τ' = [] ∧ e = .refused) ∨
      (FoundDead o.result ∧ τ' = [] ∧ e = .dead)) := by
  constructor
  · rintro (_ | ⟨hack, h⟩ | ⟨hack, hlive⟩ | hdead)
    · exact ⟨_, _, rfl, .inl ⟨hack, h⟩⟩
    · exact ⟨_, _, rfl, .inr (.inl ⟨hack, hlive, rfl, rfl⟩)⟩
    · exact ⟨_, _, rfl, .inr (.inr ⟨hdead, rfl, rfl⟩)⟩
  · rintro ⟨o, τ', rfl, ⟨hack, h⟩ | ⟨hack, hlive, rfl, rfl⟩ | ⟨hdead, rfl, rfl⟩⟩
    · exact .acked hack h
    · exact .refused hack hlive
    · exact .dead hdead

end Runs

/-! ## The gate and the descriptor -/

/-- A SET or RESET command. -/
def alters (e : Event Scsi) : Bool :=
  match e.1 with
  | .execute cdb _ _ _ => cdb.take 4 = [readBufferOpcode, knockMode] ++ knock ∧
    cdb.getD 4 0 ∈ [Verb.set.code, Verb.reset.code]
  | _ => false

/-- Only a drive whose identity reply is a complete descriptor is altered. -/
def GateAgrees (τ : List (Event Scsi)) : Prop :=
  (∃ e ∈ τ, alters e = true) → ∃ o rest, τ = Step.identity.event o :: rest ∧
    (ProtocolIdentity.parse (delivered o)).isSome = true

/-- An extension of an identity reply that names an implementation. -/
def KnownExtension (bytes : List UInt8) : Prop :=
  (bytes.drop extensionOffset).all (· == 0) = true ∨
    pioneerExtension <+: bytes.drop extensionOffset ∧
      ((bytes.drop extensionOffset).drop pioneerExtension.length).all (· == 0) = true

theorem isSome_parse_iff {bytes : List UInt8} : (ProtocolIdentity.parse bytes).isSome = true ↔
    bytes.length = memreadLen ∧ (FirmwareIdentity.parse bytes).any (·.isSupported) = true ∧
      KnownExtension bytes := by
  unfold ProtocolIdentity.parse KnownExtension
  by_cases hlen : bytes.length = memreadLen
  · rcases FirmwareIdentity.parse bytes with _ | id
    · simp [hlen]
    · by_cases hid : id.isSupported = true
      · simp only [guard, hlen, hid, if_true, Option.any_some, true_and, bind,
          Option.bind]
        split_ifs with hz hp
        · exact iff_of_true rfl (.inl hz)
        · exact iff_of_true rfl (.inr hp)
        · exact iff_of_false (by simp) (not_or.mpr ⟨hz, hp⟩)
      · simp [hlen, hid]
  · exact iff_of_false (by simp [guard, hlen, failure]) fun h => hlen h.1

/-- What every recipe asks for first after the identity alters the drive. -/
theorem ArmRecipe.exists_tail (recipe : ArmRecipe) :
    ∃ s ss, recipe.tail = s :: ss ∧ ∀ o, alters (s.event o) = true := by
  cases recipe <;> exact ⟨_, _, rfl, fun _ => rfl⟩

/-- The gate and the descriptor agree on every identity reply of a supported banner that is
complete: 64 bytes whose extension names an implementation. -/
theorem arm_gateAgrees_iff (recipe : ArmRecipe) (τ : List (Event Scsi))
    (r : Except FirmwareError Unit) (h : Run (arm recipe).run τ r) :
    GateAgrees τ ↔ ∀ o rest, τ = Step.identity.event o :: rest → Step.identity.Acked o →
      (delivered o).length = memreadLen ∧ KnownExtension (delivered o) := by
  obtain ⟨o, τ', rfl, hcases⟩ := walk_cons_iff.mp (run_arm_walk h)
  have hfirst : ∀ {o' rest}, Step.identity.event o :: τ' = Step.identity.event o' :: rest →
      o' = o := by
    intro o' rest heq
    exact (eq_of_heq (Sigma.mk.inj (List.cons.inj heq).1).2).symm
  constructor
  · rintro hagrees o' rest heq hack
    obtain rfl := hfirst heq
    have hsent : ∃ e ∈ Step.identity.event o' :: τ', alters e = true := by
      rcases hcases with ⟨-, hwalk⟩ | ⟨hno, -⟩ | ⟨hdead, -⟩
      · obtain ⟨s, ss, htail, halters⟩ := recipe.exists_tail
        rw [htail] at hwalk
        obtain ⟨o'', τ'', rfl, -⟩ := walk_cons_iff.mp hwalk
        exact ⟨s.event o'', by simp, halters o''⟩
      · exact absurd hack hno
      · exact absurd hack (not_acked_of_foundDead hdead)
    obtain ⟨o'', rest', heq', hparse⟩ := hagrees hsent
    obtain rfl := hfirst heq'
    obtain ⟨hlen, -, hext⟩ := isSome_parse_iff.mp hparse
    exact ⟨hlen, hext⟩
  · rintro hcond ⟨e, he, halters⟩
    refine ⟨o, τ', rfl, ?_⟩
    have hack : Step.identity.Acked o := by
      rcases hcases with ⟨hack, -⟩ | ⟨-, -, rfl, -⟩ | ⟨-, rfl, -⟩
      · exact hack
      all_goals
        obtain rfl := List.mem_singleton.mp he
        cases halters
    obtain ⟨hlen, hext⟩ := hcond o τ' rfl hack
    exact isSome_parse_iff.mpr ⟨hlen, hack.2, hext⟩

/-- A drive that answers every command with a banner of thirteen bytes. -/
def bannerDrive : Handler Scsi Unit
  | .execute _ _ data _, s =>
    (⟨.ok ⟨0, 13, Vector.replicate 32 0⟩, Vector.ofFn fun i : Fin data.length =>
      (respMagic ++ [0x20, 0x30, 0x2E, 0x39, 0x2E, 0x32]).getD i.val 0⟩, s)
  | .executeCleanup _ _ data _, s =>
    (⟨.ok ⟨0, data.length, Vector.replicate 32 0⟩, Vector.replicate data.length 0⟩, s)
  | .pause _, s => (.ok (), s)
  | .beginCritical, s => (.ok (), s)
  | .endCritical, s => ((), s)
  | .now, s => ((0 : ℕ), s)
  | .fillBytes n, s => (Vector.replicate n 0, s)
  | .diagnosticMemory _ _ _, s => (.error .other, s)
  | .quietDrive, s => (.failed none, s)

theorem arm_gateAgrees_banner : ∃ τ r, Run (arm .oemBd).run τ r ∧
    (GateAgrees τ ↔ ∀ o rest, τ = Step.identity.event o :: rest → Step.identity.Acked o →
      (delivered o).length = memreadLen ∧ KnownExtension (delivered o)) := by
  have hex : (exec bannerDrive (arm .oemBd).run ()).isSome = true := by decide +kernel
  obtain ⟨⟨r, τ, s⟩, he⟩ := Option.isSome_iff_exists.mp hex
  exact ⟨τ, r, run_of_exec he, arm_gateAgrees_iff _ τ r (run_of_exec he)⟩

/-- The truncated banner is enough for a SET although no descriptor can be read from it. -/
theorem not_gateAgrees_banner : ∃ τ r, Run (arm .oemBd).run τ r ∧ ¬ GateAgrees τ := by
  have hex : exec bannerDrive (arm .oemBd).run () =
      some (.error (.verifyFailed .hrl stateOff 0x66), [_, _, _], ()) := rfl
  refine ⟨_, _, run_of_exec hex, fun h => ?_⟩
  obtain ⟨o, rest, heq, hparse⟩ := h ⟨_, List.mem_cons_of_mem _ List.mem_cons_self, rfl⟩
  obtain rfl := eq_of_heq (Sigma.mk.inj (List.cons.inj heq).1).2
  have hlen := (isSome_parse_iff.mp hparse).1
  cases hlen

end FreemkvUnlock.Firmware
