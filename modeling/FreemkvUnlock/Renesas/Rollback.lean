import FreemkvUnlock.Renesas.Transfers

/-! # Rolling back a failed install

Cleanup writes only bytes that the memory held before the install, so each of its writes brings
the memory closer to what it was, however far the install got. What it checks on the way is what
the drive is trusted to leave alone.
-/

namespace FreemkvUnlock.Renesas

open Bytes Interaction Fallible Freemkv

namespace Prepared

/-- What cleanup checks but does not restore: the guards and the write pointer. -/
def watched (p : Prepared) : Set ℕ :=
  {x | (∃ g ∈ p.profile.guards, x ∈ g.range) ∨ x ∈ p.writePointerSlot}

def redirected (p : Prepared) : Set ℕ := {x | x ∈ p.pointerSlot} ∪ {x | x ∈ p.vidSlot}

/-- The policy slot shares no byte with a slot that staging redirects. -/
def SecurityApart (p : Prepared) : Prop :=
  p.securitySlot.Disjoint p.pointerSlot ∧ p.securitySlot.Disjoint p.vidSlot

def PolicyKnown (p : Prepared) (M : Memory) : Prop :=
  M.slice p.sites.securitySlot 4 = u32ToBeBytes p.sites.securityTable ∨
    M.slice p.sites.securitySlot 4 = u32ToBeBytes p.policyTable

instance (p : Prepared) (M : Memory) : Decidable (p.PolicyKnown M) :=
  inferInstanceAs (Decidable (_ ∨ _))

/-- What the ownership check of a fresh install has seen in the memory. -/
structure Unhooked (p : Prepared) (M : Memory) : Prop where
  guards : ∀ g ∈ p.profile.guards, M.slice g.cpuAddress g.expected.length = g.expected
  security : M.slice p.sites.securitySlot 4 = u32ToBeBytes p.sites.securityTable
  pointer : M.slice p.profile.pointerAddress 4 = u32ToBeBytes p.profile.originalTable
  writePointer : M.slice p.profile.writePointerAddress 4 =
    u32ToBeBytes p.profile.writeOriginalTable
  vid : M.slice p.sites.vid.slot 4 = u32ToBeBytes p.sites.vid.table
  allocation : M.slice p.allocation.start p.original.length = p.original

/-- Both pointers, the policy slot and the whole allocation are in `N` as they were in `M`. -/
structure Restored (p : Prepared) (M N : Memory) : Prop where
  pointer : N.slice p.profile.pointerAddress 4 = M.slice p.profile.pointerAddress 4
  vid : N.slice p.sites.vid.slot 4 = M.slice p.sites.vid.slot 4
  security : N.slice p.sites.securitySlot 4 = M.slice p.sites.securitySlot 4
  allocation : N.slice p.allocation.start p.allocation.length =
    M.slice p.allocation.start p.allocation.length

end Prepared

variable {P : Pioneer} {p : Prepared} {M N : Memory} {τ : List (Event Scsi)} {s : Set ℕ}

theorem unhooked_of_check (hb : p.profile.controllerCpuBase = 0xa00000)
    (h : Run (checkPrepared P p false).run τ (.ok ())) (hf : transfers.Follows M τ N) :
    N = M ∧ p.Unhooked M := by
  obtain ⟨τ₁, _, _, rfl, hguards, h⟩ := run_fallible_bind_ok_iff.mp h
  obtain ⟨τ₂, security, _, rfl, hread, h⟩ := run_fallible_bind_ok_iff.mp h
  obtain ⟨τ₃, _, _, rfl, hsecurity, h⟩ := run_fallible_bind_ok_iff.mp h
  obtain ⟨τ₄, _, _, rfl, hpointer, h⟩ := run_fallible_bind_ok_iff.mp h
  obtain ⟨τ₅, _, _, rfl, hwrite, h⟩ := run_fallible_bind_ok_iff.mp h
  obtain ⟨τ₆, _, τ₇, rfl, hvid, halloc⟩ := run_fallible_bind_ok_iff.mp h
  obtain ⟨rfl, hs⟩ := run_ensure_ok_iff.mp hsecurity
  obtain ⟨e, rfl, hlength, hr⟩ := run_read_ok hb hread
  obtain rfl : security = u32ToBeBytes p.sites.securityTable := by simpa using hs
  obtain ⟨_, -, hsize, -⟩ := run_expect_ok hb halloc
  have hslot : Observed [e] [(p.sites.securitySlot, u32ToBeBytes p.sites.securityTable)] :=
    .cons hr .nil
  have hall := (observed_checkGuards hb hguards).append (hslot.append
    ((observed_expect hb hpointer).append ((observed_expect hb hwrite).append
      ((observed_expect hb hvid).append (observed_expect hb halloc)))))
  obtain ⟨rfl, hmem⟩ := follows_of_observed hall hf
  simp only [List.forall_mem_append, List.forall_mem_cons, List.forall_mem_map,
    length_u32ToBeBytes, Bool.false_eq_true, if_false] at hmem
  obtain ⟨hguards, ⟨hsec, -⟩, ⟨hptr, -⟩, ⟨hwptr, -⟩, ⟨hvid, -⟩, hfree, -⟩ := hmem
  exact ⟨rfl, hguards, hsec, hptr, hwptr, hvid, hfree⟩

/-! ## Cleanup restores -/

/-- The memory agrees with the one before the install on `s`, and the policy slot is known. -/
def Returning (p : Prepared) (M : Memory) (s : Set ℕ) (N : Memory) : Prop :=
  Set.EqOn N M s ∧ p.PolicyKnown N

section Cleanup

variable (hl : Legible P p)
include hl

theorem succeeds_restorePolicy (hM : p.Unhooked M)
    (hw : Granted P p.profile p.sites.securitySlot (u32ToBeBytes p.sites.securityTable)) :
    transfers.Succeeds (Returning p M s) (restorePolicy P p) fun _ N =>
      Set.EqOn N M (s ∪ {x | x ∈ p.securitySlot}) := by
  refine .seq (succeeds_read hl.base hl.security) fun current => ?_
  refine .seq (.ensure ?_) fun _ => ?_
  · rintro N ⟨⟨-, hknown⟩, rfl⟩
    exact hknown
  split_ifs with hc
  · refine succeeds_store hl.base hw hl.security rfl ?_
    rintro N ⟨⟨hN, -⟩, -⟩
    rw [← hM.security]
    exact Memory.eqOn_overwrite_slice hN
  · refine .ret ?_
    rintro N ⟨⟨hN, hknown⟩, rfl⟩
    have hslot : N.slice p.sites.securitySlot 4 = M.slice p.sites.securitySlot 4 :=
      (hknown.resolve_right hc).trans hM.security.symm
    exact hN.union (Memory.slice_eq_slice_iff.mp hslot)

/-- From a memory whose watched bytes are untouched, cleanup restores everything. -/
theorem succeeds_cleanup (hp : p.Placed) (hw : ∀ w ∈ p.plannedWrites, Granted P p.profile w.1 w.2)
    (hapart : p.SecurityApart) (hM : p.Unhooked M) :
    transfers.Succeeds (Returning p M (p.watched \ p.redirected)) (cleanup P p) fun _ N =>
      p.Restored M N := by
  simp only [Prepared.plannedWrites, List.forall_mem_cons] at hw
  obtain ⟨-, -, -, hpointer, hvid, hsecurity, horiginal, -⟩ := hw
  -- A redirected slot gets its bytes back, and the policy slot stays as it is.
  have hdetach {a : ℕ} (s : Set ℕ) (ha : p.securitySlot.Disjoint (.sized a 4)) (N : Memory)
      (hN : Returning p M s N) :
      Returning p M (s ∪ {x | x ∈ Range.sized a 4}) (N.overwrite a (M.slice a 4)) := by
    refine ⟨Memory.eqOn_overwrite_slice hN.1, ?_⟩
    rw [Prepared.PolicyKnown, Memory.slice_overwrite_of_disjoint (by rwa [Memory.length_slice])]
    exact hN.2
  let s₁ : Set ℕ := p.watched \ p.redirected ∪ {x | x ∈ p.pointerSlot}
  let s₂ : Set ℕ := s₁ ∪ {x | x ∈ p.vidSlot}
  have hwatched (x : ℕ) (hx : x ∈ p.watched) : x ∈ s₂ := by
    by_cases hr : x ∈ p.redirected
    · exact hr.elim (fun h => .inl (.inr h)) .inr
    · exact .inl (.inl ⟨hx, hr⟩)
  have hlength : p.original.length % 2 ^ 32 = p.original.length :=
    Nat.mod_eq_of_lt (hp.bounded.trans_lt (by decide))
  have hsize : p.allocation.length = p.original.length :=
    (congrArg Range.length hp.sized).trans (Range.length_sized _ _)
  refine succeeds_store_seq (R := Returning p M s₁) hl.base hpointer hl.pointer rfl ?_
    (succeeds_store_seq (R := Returning p M s₂) hl.base hvid hl.vid rfl ?_ ?_)
  · rw [← hM.pointer]
    exact hdetach _ hapart.1
  · rw [← hM.vid]
    exact hdetach _ hapart.2
  refine .seq (succeeds_expect hl.base hl.writePointer fun N hN => ?_) fun _ => ?_
  · rw [← hM.writePointer]
    exact Memory.slice_eq_of_eqOn hN.1 fun x hx => hwatched x (.inr hx)
  refine .seq (succeeds_checkGuards hl fun N hN g hg => ?_) fun _ => ?_
  · rw [Memory.slice_eq_of_eqOn hN.1 fun x hx => hwatched x (.inl ⟨g, hg, hx⟩)]
    exact hM.guards g hg
  refine .seq (succeeds_restorePolicy hl hM hsecurity) fun _ => ?_
  refine succeeds_store hl.base horiginal hl.resident hlength.symm fun N hN => ?_
  have hall : Set.EqOn (N.overwrite p.allocation.start p.original) M
      (s₂ ∪ {x | x ∈ p.securitySlot} ∪ {x | x ∈ Range.sized p.allocation.start
        p.original.length}) := by
    conv in N.overwrite _ _ => rw [← hM.allocation]
    exact Memory.eqOn_overwrite_slice hN
  exact ⟨Memory.slice_eq_of_eqOn hall fun x hx => .inl (.inl (.inl (.inr hx))),
    Memory.slice_eq_of_eqOn hall fun x hx => .inl (.inl (.inr hx)),
    Memory.slice_eq_of_eqOn hall fun x hx => .inl (.inr hx),
    hsize ▸ Memory.slice_eq_of_eqOn hall fun x hx => .inr hx⟩

end Cleanup

/-! ## An install under way -/

/-- What an event does to the memory by itself; a data-out that fails may have stored any first
part of its bytes, and one to an unknown address anything. -/
def Transferred (M : Memory) (e : Event Scsi) (N : Memory) : Prop :=
  match e with
  | ⟨.diagnosticMemory selector offset (.dataIn n), r⟩ => N = M ∧
    ∀ a (v : Vector UInt8 n), cpuAddress selector offset = some a → r = .ok v →
      v.toList = M.slice a n
  | ⟨.diagnosticMemory selector offset (.dataOut bytes), r⟩ =>
    ∀ a, cpuAddress selector offset = some a →
      ∃ k, N = M.overwrite a (bytes.take k) ∧ (r = .ok () → bytes.length ≤ k)
  | _ => N = M

/-- Before every event, code of the drive may have changed all but the watched bytes. -/
def disturbed (p : Prepared) : Contract Scsi Memory where
  allows M e N := ∃ M', Set.EqOn M' M p.watched ∧ Transferred M' e N

/-- A data-out of the event goes to the allocation or to a redirected slot. -/
def Stages (p : Prepared) (e : Event Scsi) : Prop := ∀ a bytes, dataOut? e = some (a, bytes) →
  ∃ b, a = some b ∧ (.sized b bytes.length = p.allocation ∨
    .sized b bytes.length = p.pointerSlot ∨ .sized b bytes.length = p.vidSlot)

theorem stages_of_none {e : Event Scsi} (h : dataOut? e = none) : Stages p e :=
  fun a bytes hd => by simp [h] at hd

theorem stages_reads : HoldsOfReads (Stages p) :=
  ⟨fun _ _ _ _ _ => stages_of_none rfl, fun _ _ _ _ => stages_of_none rfl⟩

theorem Transferred.eqOn (hp : p.Placed) {e : Event Scsi} (he : Stages p e)
    (h : Transferred M e N) : Set.EqOn N M (p.watched \ p.redirected) := by
  obtain ⟨o, r⟩ := e
  cases o with
  | diagnosticMemory selector offset data =>
    cases data with
    | dataIn n =>
      obtain ⟨rfl, -⟩ := h
      exact Set.eqOn_refl _ _
    | dataOut bytes =>
      obtain ⟨b, hb, hstaged⟩ := he _ bytes rfl
      obtain ⟨k, rfl, -⟩ := h b hb
      refine Memory.eqOn_overwrite_of_notMem fun x hx hmem => ?_
      have hx' : x ∈ Range.sized b bytes.length := by
        rw [List.length_take] at hx
        exact ⟨hx.1, hx.2.trans_le (Nat.add_le_add_left (min_le_right _ _) _)⟩
      obtain ⟨hwatched, hredirected⟩ := hmem
      rcases hstaged with ha | hp' | hv
      · rw [ha] at hx'
        rcases hwatched with ⟨g, hg, hmem⟩ | hmem
        · exact Range.disjoint_iff.mp (hp.guards g hg) x hx' hmem
        · exact Range.disjoint_iff.mp hp.writePointer x hx' hmem
      · exact hredirected (.inl (hp' ▸ hx'))
      · exact hredirected (.inr (hv ▸ hx'))
  | _ =>
    obtain rfl : N = M := h
    exact Set.eqOn_refl _ _

/-- Through an install under way the watched bytes stay, apart from the redirected slots. -/
theorem eqOn_of_follows (hp : p.Placed) (h : (disturbed p).Follows M τ N)
    (hτ : ∀ e ∈ τ, Stages p e) : Set.EqOn N M (p.watched \ p.redirected) := by
  induction h with
  | nil => exact Set.eqOn_refl _ _
  | cons ha _ ih =>
    obtain ⟨M', hdrive, ht⟩ := ha
    rw [List.forall_mem_cons] at hτ
    exact (ih hτ.2).trans ((ht.eqOn hp hτ.1).trans (hdrive.mono Set.sdiff_subset))

/-! ## A failed install -/

def proceed (P : Pioneer) (p : Prepared) : Step Unlocked := do
  mapErr transactionError (stage P p)
  confirmInstalled (backend P) false
  activateBackend (backend P) (.committed p false)

theorem run_attempt_checked {checked work : List (Event Scsi)} {a : Except UnlockError Unlocked}
    {t : State} (hc : Run (checkPrepared P p false).run checked (.ok ())) :
    Run (attempt (backend P) (.planned p false) false) (checked ++ work) (a, t) ↔
      Run (proceed P p).run work a ∧ t = .committed p false := by
  have hmap : Run ((fun a => (a, State.committed p false)) <$> (proceed P p).run) work (a, t) ↔
      Run (proceed P p).run work a ∧ t = .committed p false := by
    rw [run_map_iff]
    constructor
    · rintro ⟨a', h, he⟩
      obtain ⟨rfl, rfl⟩ := Prod.mk.inj he
      exact ⟨h, rfl⟩
    · rintro ⟨h, rfl⟩
      exact ⟨a, h, rfl⟩
  rw [← hmap, attempt]
  change Run ((_ >>= _) >>= _) _ _ ↔ _
  rw [bind_assoc, run_append_iff (run_mapErr_ok_iff.mpr hc), proceed, ExceptT.run_bind, map_bind]
  refine iff_of_eq (congrArg (Run · work (a, t)) ?_)
  change (_ >>= _) >>= _ = _
  rw [bind_assoc]
  congr 1
  funext r
  cases r <;> rfl

/-- After its ownership check an install did `work` and then failed: one of its steps did, or the
final check of what a resident hook relies on. -/
inductive FailsAfter (P : Pioneer) (p : Prepared) (checked : List (Event Scsi)) :
    List (Event Scsi) → Prop
  | step {work : List (Event Scsi)} {e : UnlockError} {t : State}
      (h : Run (attempt (backend P) (.planned p false) false) (checked ++ work) (.error e, t)) :
      FailsAfter P p checked work
  | verification {work verified : List (Event Scsi)} {u : Unlocked} {t : State} {fault : Fault}
      (h : Run (attempt (backend P) (.planned p false) false) (checked ++ work) (.ok u, t))
      (hv : Run (verifyResident P p).run verified (.error fault)) :
      FailsAfter P p checked (work ++ verified)

variable {checked work rest clean : List (Event Scsi)}

/-- Undoing an install runs cleanup, whose own failure changes nothing. -/
theorem run_undo_throw {f : Except UnlockError Unit} : Run (do
      undo P p false
      throw .transport : Step Unit).run τ f ↔
    f = .error .transport ∧ ∃ c, Run (cleanup P p).run τ c := by
  simp only [undo, Bool.false_eq_true, if_false]
  rw [run_fallible_bind_iff]
  constructor
  · rintro (⟨e, rfl, h⟩ | ⟨τ₁, u, τ₂, rfl, h₁, h₂⟩)
    · obtain ⟨c, hclean, he⟩ := run_mapErr_iff.mp h
      refine ⟨?_, c, hclean⟩
      cases c with
      | error fault => exact congrArg _ (Except.error.inj he)
      | ok v => cases he
    · obtain ⟨rfl, rfl⟩ := run_throw_iff.mp h₂
      exact ⟨rfl, _, by simpa using run_mapErr_ok_iff.mp h₁⟩
  · rintro ⟨rfl, c, hclean⟩
    have hstep : Run (mapErr transactionError (cleanup P p)).run τ
        (c.mapError transactionError) := run_mapErr_iff.mpr ⟨c, hclean, rfl⟩
    cases c with
    | error fault => exact .inl ⟨_, rfl, hstep⟩
    | ok v => exact .inr ⟨τ, _, [], by simp, hstep, run_throw_iff.mpr ⟨rfl, rfl⟩⟩

/-- A failed install is cleaned up, and what comes after is given the failure. -/
theorem run_transaction_failed {β : Type} {b : β}
    {k : Except UnlockError (Except UnlockError Unlocked) → Prog Scsi β}
    (hc : Run (checkPrepared P p false).run checked (.ok ()))
    (hfail : FailsAfter P p checked work) :
    Run (transaction (backend P) (.planned p false) false >>= k) (checked ++ work ++ rest) b ↔
      ∃ clean c after, rest = clean ++ after ∧ Run (cleanup P p).run clean c ∧
        Run (k (.error .transport)) after b := by
  have hundo (r : Except UnlockError Unlocked) : Run ((do
        undo P p false
        throw .transport : Step Unit).run >>= fun finished => k (finished.map fun _ => r)) rest b ↔
      ∃ clean c after, rest = clean ++ after ∧ Run (cleanup P p).run clean c ∧
        Run (k (.error .transport)) after b := by
    rw [run_bind_iff]
    constructor
    · rintro ⟨clean, o, after, rfl, h₁, h₂⟩
      obtain ⟨rfl, c, hclean⟩ := run_undo_throw.mp h₁
      exact ⟨clean, c, after, rfl, hclean, h₂⟩
    · rintro ⟨clean, c, after, rfl, hclean, h⟩
      exact ⟨clean, _, after, rfl, run_undo_throw.mpr ⟨rfl, c, hclean⟩, h⟩
  simp only [transaction, bind_assoc, pure_bind]
  cases hfail with
  | step h =>
    obtain ⟨-, rfl⟩ := (run_attempt_checked hc).mp h
    rw [run_append_iff h]
    exact hundo _
  | @verification work verified u t fault h hv =>
    obtain ⟨-, rfl⟩ := (run_attempt_checked hc).mp h
    rw [← List.append_assoc, List.append_assoc, run_append_iff h]
    have hfalse : Run (Except.isOk <$> (verifyResident P p).run) verified false :=
      run_map_iff.mpr ⟨_, hv, rfl⟩
    have hfinish : (finish P (.committed p false) true).run =
        (Except.isOk <$> (verifyResident P p).run) >>= fun v => (if v then pure () else do
          undo P p false
          throw .transport : Step Unit).run := ExceptT.run_bind_lift _ _
    change Run ((finish P (.committed p false) true).run >>= _) _ _ ↔ _
    rw [hfinish, bind_assoc, run_append_iff hfalse]
    exact hundo _

theorem run_unlockBackend_failed (hc : Run (checkPrepared P p false).run checked (.ok ()))
    (hfail : FailsAfter P p checked work) {r : Except UnlockError Unlocked} :
    Run (unlockBackend (backend P) (.planned p false) false).run
        (⟨.beginCritical, .ok ()⟩ :: (checked ++ work ++ rest)) r ↔
      r = .error .transport ∧ ∃ clean c, rest = clean ++ [⟨.endCritical, ()⟩] ∧
        Run (cleanup P p).run clean c := by
  have hopened : Run Scsi.beginCritical [⟨.beginCritical, .ok ()⟩] (.ok ()) := run_ask_iff.mpr rfl
  have hclosed {τ : List (Event Scsi)} : Run (Scsi.endCritical >>= fun _ =>
      (pure (.error .transport) : Prog Scsi (Except UnlockError Unlocked))) τ r ↔
      r = .error .transport ∧ τ = [⟨.endCritical, ()⟩] := by
    rw [run_bind_iff]
    constructor
    · rintro ⟨τ₁, u, τ₂, rfl, h₁, h₂⟩
      obtain ⟨rfl, rfl⟩ := run_pure_iff.mp h₂
      exact ⟨rfl, by rw [run_ask_iff.mp h₁, List.append_nil]⟩
    · rintro ⟨rfl, rfl⟩
      exact ⟨_, (), [], rfl, run_ask_iff.mpr rfl, run_pure_iff.mpr ⟨rfl, rfl⟩⟩
  simp only [unlockBackend, criticalSpan, bind_assoc, ExceptT.run_bind_lift]
  rw [← List.singleton_append, run_append_iff hopened]
  change Run (ExceptT.lift (transaction (backend P) (.planned p false) false) >>= _ :
    Step Unlocked).run _ _ ↔ _
  rw [ExceptT.run_bind_lift, run_transaction_failed hc hfail]
  constructor
  · rintro ⟨clean, c, after, rfl, hclean, h⟩
    rw [ExceptT.run_bind_lift] at h
    obtain ⟨rfl, rfl⟩ := hclosed.mp h
    exact ⟨rfl, clean, c, rfl, hclean⟩
  · rintro ⟨rfl, clean, c, rfl, hclean⟩
    refine ⟨clean, c, _, rfl, hclean, ?_⟩
    rw [ExceptT.run_bind_lift]
    exact hclosed.mpr ⟨rfl, rfl⟩

theorem stages_write (hb : p.profile.controllerCpuBase = 0xa00000) {cpu : ℕ} {bytes : List UInt8}
    (h : bytes.length < 2 ^ 32 → .sized cpu bytes.length = p.allocation ∨
      .sized cpu bytes.length = p.pointerSlot ∨ .sized cpu bytes.length = p.vidSlot) :
    Issues (Stages p) (write P p.profile cpu bytes).run := by
  intro τ r hr e he
  rcases run_write hb hr with ⟨rfl, -⟩ | ⟨e', rfl, hw, hlt, -⟩
  · cases he
  · obtain rfl := List.mem_singleton.mp he
    intro a bs hd
    obtain ⟨rfl, rfl⟩ := hw.dataOut hd
    exact ⟨cpu, rfl, h hlt⟩

theorem stages_proceed (hp : p.Placed) : Issues (Stages p) (proceed P p).run := by
  refine .seq (.mapErr _ (issues_stage_of stages_reads ?_ ?_ ?_)) fun _ =>
    .seq (issues_confirmInstalled stages_reads.command _) fun _ => ?_
  · exact stages_write hp.base fun hlt => .inl (hp.payload_range hlt)
  · exact stages_write hp.base fun _ => .inr (.inr (by rw [hp.vidInstalled]; rfl))
  · exact stages_write hp.base fun _ => .inr (.inl (by rw [hp.installed]; rfl))
  · exact issues_activateBackend stages_reads.command (issues_verify stages_reads _)
      (issues_readAacsVid stages_reads.command)

theorem FailsAfter.stages (hp : p.Placed) (hc : Run (checkPrepared P p false).run checked (.ok ()))
    (h : FailsAfter P p checked work) : ∀ e ∈ work, Stages p e := by
  cases h with
  | step h => exact stages_proceed hp ((run_attempt_checked hc).mp h).1
  | @verification work verified u t fault h hv =>
    rw [List.forall_mem_append]
    exact ⟨stages_proceed hp ((run_attempt_checked hc).mp h).1,
      issues_verifyResident stages_reads hv⟩

/-- The memory went from `M` to `N` through these events of an install, with code of the drive
running before each of them and after the last. -/
def Disturbs (p : Prepared) (M : Memory) (τ : List (Event Scsi)) (N : Memory) : Prop :=
  ∃ M', (disturbed p).Follows M τ M' ∧ Set.EqOn N M' p.watched

/-- A failed install is rolled back: wherever it failed after the ownership check, cleanup ends the
critical span, the outcome is a transport error, and if the transfers of cleanup are faithful and
it finds a known policy, everything is again what it was. -/
def RollsBack (P : Pioneer) (p : Prepared) : Prop :=
  ∀ (checked work rest : List (Event Scsi)) (r : Except UnlockError Unlocked) (M : Memory),
    Run (unlockBackend (backend P) (.planned p false) false).run
      (⟨.beginCritical, .ok ()⟩ :: (checked ++ work ++ rest)) r →
    Run (checkPrepared P p false).run checked (.ok ()) → transfers.Follows M checked M →
    FailsAfter P p checked work →
    r = .error .transport ∧ ∃ clean c, rest = clean ++ [⟨.endCritical, ()⟩] ∧
      Run (cleanup P p).run clean c ∧ ∀ M₁ M₂, Disturbs p M work M₁ → p.PolicyKnown M₁ →
        transfers.Follows M₁ clean M₂ → p.Restored M M₂

/-- Every plan whose writes all go to RAM and whose policy slot is apart from the redirected ones
is rolled back. -/
theorem prepare_rollsBack {planned : List (Event Scsi)}
    (h : Run (prepare P false).run planned (.ok p))
    (hw : ∀ w ∈ p.plannedWrites, writableRam w.1 w.2.length = true) (hapart : p.SecurityApart) :
    RollsBack P p := by
  intro checked work rest r M hrun hc hM hfail
  have hp := run_prepare_placed h
  have hl := run_prepare_legible h
  obtain ⟨rfl, clean, c, rfl, hclean⟩ := (run_unlockBackend_failed hc hfail).mp hrun
  refine ⟨rfl, clean, c, rfl, hclean, ?_⟩
  rintro M₁ M₂ ⟨M', hwork, hdrive⟩ hknown hfaithful
  have hkept : Set.EqOn M₁ M (p.watched \ p.redirected) :=
    (hdrive.mono Set.sdiff_subset).trans (eqOn_of_follows hp hwork (hfail.stages hp hc))
  have hgranted : ∀ w ∈ p.plannedWrites, Granted P p.profile w.1 w.2 :=
    fun w hmem => (granted_iff hp.base).mpr (hw w hmem)
  obtain ⟨_, -, hrestored⟩ := succeeds_cleanup hl hp hgranted hapart
    (unhooked_of_check hp.base hc hM).2 ⟨hkept, hknown⟩ hclean hfaithful
  exact hrestored

theorem run_prepare_sited {planned : List (Event Scsi)} {t : Trampoline} {sites : Sites} {a : ℕ}
    (hbuild : ∀ image, P.build image = .ok (t, sites))
    (hread : ∀ image base site, P.readBufferSite image base = .ok site → site.objectAddress = a)
    (h : Run (prepare P false).run planned (.ok p)) : p.sites = sites ∧
      p.profile.pointerAddress = a ∧ p.payload.length = t.bytes.length := by
  obtain ⟨image, t', space, table, vidTable, hd⟩ := run_prepare_derived h
  obtain ⟨rfl, hsites⟩ := Prod.mk.inj (Except.ok.inj ((hbuild image).symm.trans hd.built))
  obtain ⟨⟨derived, hderived, -, -, hpointer⟩, -⟩ := planProfile_ok hd.planned
  obtain ⟨-, base, site, hsite, hobject⟩ := discoverProfile_ok hderived
  exact ⟨hsites.symm, hpointer.trans (hobject.trans (hread _ _ _ (hookSite_ok hsite))),
    length_place hd.placed⟩

theorem settles_cleanup {V : Type} {drive : Handler Scsi V} :
    Settles drive fun _ => (cleanup P p).run := by
  have hpolicy : Settles drive fun _ => (restorePolicy P p).run := by
    refine .seq settles_read fun current => .seq (.ensure _ _) fun _ => ?_
    split_ifs
    · exact .seq settles_memory fun _ => settles_expect
    · exact .ret _
  exact .seq settles_memory fun _ => .seq settles_expect fun _ => .seq settles_memory fun _ =>
    .seq settles_expect fun _ => .seq settles_expect fun _ => .seq settles_checkGuards fun _ =>
    .seq hpolicy fun _ => .seq settles_memory fun _ => settles_expect

/-- The sites and the pointer of the sample plan, all of whose writes go to RAM. -/
theorem sited_sample (h : Run (prepare samplePioneer false).run τ (.ok p)) :
    (samplePioneer.build []).map Prod.snd = .ok p.sites ∧ p.profile.pointerAddress = 0xe20 ∧
      ∀ w ∈ p.plannedWrites, writableRam w.1 w.2.length = true := by
  obtain ⟨hsites, hpointer, hlength⟩ := run_prepare_sited (fun _ => rfl)
    (fun _ _ _ hsite => congrArg OpcodeSite.objectAddress (Except.ok.inj hsite).symm) h
  have hp := run_prepare_placed h
  have hsame : p.payload.length = p.original.length := by
    rw [← hp.payload, hlength]
    rfl
  refine ⟨congrArg Except.ok hsites.symm, hpointer, hp.writable hsame ?_ ?_ ?_⟩
  · rw [hpointer]
    decide
  · rw [hsites]
    decide
  · rw [hsites]
    decide

theorem apart_sample (h : Run (prepare samplePioneer false).run τ (.ok p)) : p.SecurityApart := by
  obtain ⟨hsites, hpointer, -⟩ := sited_sample h
  rw [Prepared.SecurityApart, Prepared.securitySlot, Prepared.pointerSlot, Prepared.vidSlot,
    hpointer, ← Except.ok.inj hsites]
  decide

/-- The first write of staging fails after the drive stored all of it. -/
theorem prepare_rollsBack_sample : ∃ (p : Prepared) (checked work clean : List (Event Scsi))
    (M M₁ M₂ : Memory), RollsBack samplePioneer p ∧
      Run (unlockBackend (backend samplePioneer) (.planned p false) false).run
        (⟨.beginCritical, .ok ()⟩ :: (checked ++ work ++ (clean ++ [⟨.endCritical, ()⟩])))
        (.error .transport) ∧
      FailsAfter samplePioneer p checked work ∧ M₁ = M.overwrite p.allocation.start p.payload ∧
      Disturbs p M work M₁ ∧ transfers.Follows M₁ clean M₂ ∧ p.Restored M M₂ := by
  obtain ⟨p, planned, checked, M, N, hprepare, hcheck⟩ := romDrive_checks
  have h := run_of_exec hprepare
  have hc := run_of_exec hcheck
  have hp := run_prepare_placed h
  obtain ⟨-, -, hw⟩ := sited_sample h
  have hback := prepare_rollsBack h hw (apart_sample h)
  have hfollows : transfers.Follows M checked N := (keptBy_memoryDrive _).follows hcheck
  obtain ⟨rfl, hM⟩ := unhooked_of_check hp.base hc hfollows
  obtain ⟨target, ht⟩ : Granted samplePioneer p.profile p.allocation.start p.payload :=
    (granted_iff hp.base).mpr (hw (p.allocation.start, p.payload) List.mem_cons_self)
  obtain ⟨ha, hlt, -⟩ := transferTarget_eq hp.base ht
  let lost : Event Scsi :=
    ⟨.diagnosticMemory target.1 target.2 (.dataOut p.payload), Except.error Fault.other⟩
  have hstage : Run (stage samplePioneer p).run [lost] (.error .other) :=
    run_fallible_bind_iff.mpr (.inl ⟨.other, rfl, (run_memory_of_target ht).mpr rfl⟩)
  have hfail : FailsAfter samplePioneer p checked [lost] :=
    .step ((run_attempt_checked hc).mpr ⟨run_fallible_bind_iff.mpr
      (.inl ⟨_, rfl, run_mapErr_iff.mpr ⟨_, hstage, rfl⟩⟩), rfl⟩)
  -- The payload stands in the allocation, apart from the policy slot.
  have hdisturbs : Disturbs p N [lost] (N.overwrite p.allocation.start p.payload) := by
    refine ⟨_, .cons ⟨N, Set.eqOn_refl _ _, fun a hcpu => ⟨p.payload.length, ?_, nofun⟩⟩ (.nil _),
      Set.eqOn_refl _ _⟩
    obtain rfl := Option.some.inj (ha.symm.trans hcpu)
    rw [List.take_length]
  have hknown : p.PolicyKnown (N.overwrite p.allocation.start p.payload) := by
    refine .inl ((Memory.slice_overwrite_of_disjoint ?_).trans hM.security)
    rw [hp.payload_range hlt]
    exact hp.security.symm
  have hsettles : Settles romDrive fun _ => (cleanup samplePioneer p).run := settles_cleanup
  obtain ⟨c, clean, M₂, hclean⟩ := hsettles.exec (N.overwrite p.allocation.start p.payload)
  have hfaithful := (keptBy_memoryDrive _).follows hclean
  have hrun : Run (unlockBackend (backend samplePioneer) (.planned p false) false).run
      (⟨.beginCritical, .ok ()⟩ :: (checked ++ [lost] ++ (clean ++ [⟨.endCritical, ()⟩])))
      (.error .transport) :=
    (run_unlockBackend_failed hc hfail).mpr ⟨rfl, clean, c, rfl, run_of_exec hclean⟩
  obtain ⟨-, clean', _, hsame, -, hrestored⟩ :=
    hback checked [lost] _ _ N hrun hc hfollows hfail
  obtain rfl := List.append_cancel_right hsame
  exact ⟨p, checked, [lost], clean, N, _, M₂, hback, hrun, hfail, rfl, hdisturbs, hfaithful,
    hrestored _ _ hdisturbs hknown hfaithful⟩

end FreemkvUnlock.Renesas
