import FreemkvUnlock.Interaction.Blame
import FreemkvUnlock.Renesas.Allocation

/-! # Planned writes are granted

The plan is accepted by one set of checks and its writes are gated by another. A plan whose
pointer is not at address zero passes the gate with every write, so a transaction fails only for a
reason the drive gives.
-/

namespace FreemkvUnlock.Renesas

open Bytes Interaction Fallible

variable {P : Pioneer} {H : H8} {S : Survey} {existing : Bool} {profile : Profile} {cpu n : ℕ}
  {bytes : List UInt8} {τ : List (Event Scsi)} {p : Prepared}

/-! ## The gate -/

def Granted (P : Pioneer) (profile : Profile) (cpu : ℕ) (bytes : List UInt8) : Prop :=
  ∃ target, transferTarget P profile cpu (.dataOut bytes) = .ok target

theorem writableRam_iff : writableRam cpu n = true ↔ n ≠ 0 ∧ cpu + n < 2 ^ 32 ∧
    (0 < cpu ∧ cpu + n ≤ 0x8000 ∨ 0xa00000 ≤ cpu ∧ cpu + n ≤ 0xe00000) := by
  rw [writableRam, decide_eq_true_iff]

theorem address_ok (hb : profile.controllerCpuBase = 0xa00000) (hw : writableRam cpu n = true) :
    ∃ target, address P profile cpu n = .ok target := by
  obtain ⟨hne, hlt, hram⟩ := writableRam_iff.mp hw
  have hrange := P.rangeNew_ok (a := cpu) (Nat.pos_of_ne_zero hne) hlt
  by_cases hc : 0xa00000 ≤ cpu
  · refine ⟨(0x93, cpu - 0xa00000), except_bind_eq_ok_iff.mpr ⟨_, hrange, ?_⟩⟩
    rw [hb, if_pos hc]
    exact except_bind_eq_ok_iff.mpr ⟨(), check_eq_ok_iff.mpr (by omega), rfl⟩
  · refine ⟨(0xb0, cpu), except_bind_eq_ok_iff.mpr ⟨_, hrange, ?_⟩⟩
    rw [hb, if_neg hc]
    exact except_bind_eq_ok_iff.mpr ⟨(), check_eq_ok_iff.mpr (by rw [Range.stop_sized]; omega), rfl⟩

/-- The gate lets exactly writes to RAM through. -/
theorem granted_iff (hb : profile.controllerCpuBase = 0xa00000) :
    Granted P profile cpu bytes ↔ writableRam cpu bytes.length = true := by
  constructor
  · rintro ⟨⟨s, o⟩, h⟩
    exact (transferTarget_eq hb h).2.2 rfl
  · intro hw
    obtain ⟨target, ht⟩ := address_ok hb hw
    have hlt : bytes.length < 2 ^ 32 := by have := writableRam_iff.mp hw; omega
    exact ⟨target, except_bind_eq_ok_iff.mpr ⟨bytes.length, u32TryFrom_eq_ok.mpr ⟨hlt, rfl⟩,
      except_bind_eq_ok_iff.mpr ⟨target, ht, except_bind_eq_ok_iff.mpr
        ⟨(), check_eq_ok_iff.mpr fun _ => hw, ht⟩⟩⟩⟩

/-- The writes of a plan: what staging writes, then what cleanup writes. -/
def Prepared.plannedWrites (p : Prepared) : List (ℕ × List UInt8) :=
  [(p.allocation.start, p.payload), (p.sites.vid.slot, p.vidInstalledPointer),
    (p.profile.pointerAddress, p.installedPointer),
    (p.profile.pointerAddress, u32ToBeBytes p.profile.originalTable),
    (p.sites.vid.slot, u32ToBeBytes p.sites.vid.table),
    (p.sites.securitySlot, u32ToBeBytes p.sites.securityTable),
    (p.allocation.start, p.original)]

/-! ## Reasons for a failure -/

def TransferFails (e : Event Scsi) : Prop :=
  ∃ selector offset data, ∃ fault : Fault,
    e = ⟨.diagnosticMemory selector offset data, Except.error fault⟩

/-- What the drive can do to make a transaction fail: a transfer fails, a guard or a slot has
changed, or a read right after a write delivers other bytes. -/
inductive Cause (p : Prepared) (before : List (Event Scsi)) (e : Event Scsi) : Prop
  | transfer (h : TransferFails e)
  | guard {g : Guard} {bytes : List UInt8} (hg : g ∈ p.profile.guards)
      (h : Reads e g.cpuAddress bytes) (hne : bytes ≠ g.expected)
  | writePointer {bytes : List UInt8} (h : Reads e p.profile.writePointerAddress bytes)
      (hne : bytes ≠ u32ToBeBytes p.profile.writeOriginalTable)
  | security {bytes : List UInt8} (h : Reads e p.sites.securitySlot bytes)
      (hne : bytes ∉ [u32ToBeBytes p.sites.securityTable, u32ToBeBytes p.policyTable])
  | readback {w : Event Scsi} {cpu : ℕ} {written bytes : List UInt8}
      (hlast : before.getLast? = some w) (hw : Writes w cpu written) (h : Reads e cpu bytes)
      (hne : bytes ≠ written)

theorem Cause.lasting : BlamesAfter.Lasting (Cause p) := by
  intro before pre e h
  cases h with
  | transfer h => exact .transfer h
  | guard hg h hne => exact .guard hg h hne
  | writePointer h hne => exact .writePointer h hne
  | security h hne => exact .security h hne
  | readback hlast hw h hne =>
    exact .readback (by rw [List.getLast?_append, hlast, Option.some_or]) hw h hne

abbrev Excused (p : Prepared) (x : Hook Unit) : Prop :=
  BlamesAfter (Cause p) (Fails fun _ => True) x.run

/-- The plan is never refused: not in any of its writes, and not in a transaction. -/
structure Unrefused (P : Pioneer) (p : Prepared) : Prop where
  writes : ∀ w ∈ p.plannedWrites, Granted P p.profile w.1 w.2
  stage : Excused p (stage P p)
  cleanup : Excused p (cleanup P p)

/-! ## Accesses that are let through -/

theorem run_memory_of_target {data : MemoryTransfer} {target : UInt8 × ℕ}
    {r : Except Fault data.Delivered} (ht : transferTarget P profile cpu data = .ok target) :
    Run (memory P profile cpu data).run τ r ↔
      τ = [⟨.diagnosticMemory target.1 target.2 data, r⟩] := by
  rw [memory, ht]
  exact run_ask_result_iff.trans
    ⟨fun ⟨a, h, hr⟩ => hr ▸ h, fun h => ⟨r, h, rfl⟩⟩

theorem run_write_granted (hw : Granted P profile cpu bytes)
    (hb : profile.controllerCpuBase = 0xa00000) {r : Except Fault Unit}
    (h : Run (write P profile cpu bytes).run τ r) :
    ∃ e, τ = [e] ∧ Writes e cpu bytes ∧ ((∃ f, r = .error f) → TransferFails e) := by
  obtain ⟨target, ht⟩ := hw
  obtain rfl := (run_memory_of_target ht).mp h
  refine ⟨_, rfl, ?_, ?_⟩
  · simp [Writes, dataOut?, (transferTarget_eq hb ht).1]
  · rintro ⟨f, rfl⟩
    exact ⟨_, _, _, f, rfl⟩

theorem run_read_readable (hr : Readable P profile cpu n)
    (hb : profile.controllerCpuBase = 0xa00000) {r : Except Fault (List UInt8)}
    (h : Run (read P profile cpu n).run τ r) : ∃ e, τ = [e] ∧
      ((∃ f, r = .error f) ∧ TransferFails e ∧ Fetches e cpu n ∨
        ∃ bytes, r = .ok bytes ∧ Reads e cpu bytes) := by
  obtain ⟨hn, target, ht⟩ := hr
  have ha := (transferTarget_eq hb ht).1
  have hensure : (ensure (0 < n ∧ n ≤ 0x400000) Fault.other : Hook Unit) = pure () := if_pos hn
  rw [read, hensure, pure_bind] at h
  rcases run_fallible_bind_iff.mp h with ⟨f, rfl, h₁⟩ | ⟨τ₁, v, τ₂, rfl, h₁, h₂⟩
  · obtain rfl := (run_memory_of_target ht).mp h₁
    exact ⟨_, rfl, .inl ⟨⟨f, rfl⟩, ⟨_, _, _, f, rfl⟩, target.1, target.2, rfl, ha⟩⟩
  · obtain rfl := (run_memory_of_target ht).mp h₁
    obtain ⟨rfl, rfl⟩ := run_fallible_pure_iff.mp h₂
    exact ⟨_, rfl, .inr ⟨_, rfl, target.1, target.2, n, v, rfl, ha, rfl⟩⟩

theorem run_expect_readable (hr : Readable P profile cpu n)
    (hb : profile.controllerCpuBase = 0xa00000) {r : Except Fault Unit}
    (h : Run (expect P profile cpu n bytes).run τ r) : ∃ e, τ = [e] ∧
      (r = .ok () ∨ TransferFails e ∨ ∃ bytes', Reads e cpu bytes' ∧ bytes' ≠ bytes) := by
  rcases run_fallible_bind_iff.mp h with ⟨f, -, h₁⟩ | ⟨τ₁, bytes', τ₂, rfl, h₁, h₂⟩
  · obtain ⟨e, rfl, ⟨-, he, -⟩ | ⟨_, hok, -⟩⟩ := run_read_readable hr hb h₁
    · exact ⟨e, rfl, .inr (.inl he)⟩
    · cases hok
  · obtain ⟨rfl, rfl⟩ := run_ensure_iff.mp h₂
    obtain ⟨e, rfl, ⟨⟨_, herr⟩, -⟩ | ⟨_, hok, hreads⟩⟩ := run_read_readable hr hb h₁
    · cases herr
    · obtain rfl := Except.ok.inj hok
      by_cases heq : bytes' = bytes
      · exact ⟨e, rfl, .inl (if_pos heq)⟩
      · exact ⟨e, rfl, .inr (.inr ⟨bytes', hreads, heq⟩)⟩

section Rules

variable (hb : p.profile.controllerCpuBase = 0xa00000)
include hb

theorem excused_expect (hr : Readable P p.profile cpu n)
    (hC : ∀ e bytes', Reads e cpu bytes' → bytes' ≠ bytes → Cause p [] e) :
    Excused p (expect P p.profile cpu n bytes) := by
  intro τ r h hfail
  obtain ⟨e, rfl, rfl | he | ⟨bytes', hreads, hne⟩⟩ := run_expect_readable hr hb h
  · exact hfail.elim
  · exact ⟨[], e, [], rfl, .transfer he⟩
  · exact ⟨[], e, [], rfl, hC e bytes' hreads hne⟩

/-- A read whose content is either to blame or goes on to an excused program. -/
theorem excused_read {f : List UInt8 → Hook Unit} (hr : Readable P p.profile cpu n)
    (hf : ∀ bytes, (∀ e, Reads e cpu bytes → Cause p [] e) ∨ Excused p (f bytes)) :
    Excused p (read P p.profile cpu n >>= f) := by
  intro τ r h hfail
  rcases run_fallible_bind_iff.mp h with ⟨err, -, h₁⟩ | ⟨_, bytes, τ', rfl, h₁, h'⟩
  · obtain ⟨e, rfl, ⟨-, he, -⟩ | ⟨_, hok, -⟩⟩ := run_read_readable hr hb h₁
    · exact ⟨[], e, [], rfl, .transfer he⟩
    · cases hok
  · obtain ⟨e, rfl, ⟨⟨_, herr⟩, -⟩ | ⟨_, hok, hreads⟩⟩ := run_read_readable hr hb h₁
    · cases herr
    · obtain rfl := Except.ok.inj hok
      rcases hf bytes with hcause | hrest
      · exact ⟨[], e, τ', rfl, hcause e hreads⟩
      · obtain ⟨pre, e', post, rfl, he⟩ := hrest h' hfail
        exact ⟨_, e', post, rfl, Cause.lasting [e] _ _ he⟩

theorem excused_restore {rest : Hook Unit} (hw : Granted P p.profile cpu bytes)
    (hr : Readable P p.profile cpu n) (hrest : Excused p rest) :
    Excused p (do
      write P p.profile cpu bytes
      expect P p.profile cpu n bytes
      rest) := by
  intro τ r h hfail
  rcases run_fallible_bind_iff.mp h with ⟨f, rfl, h₁⟩ | ⟨_, _, τ', rfl, h₁, h'⟩
  · obtain ⟨e, rfl, -, he⟩ := run_write_granted hw hb h₁
    exact ⟨[], e, [], rfl, .transfer (he ⟨f, rfl⟩)⟩
  · obtain ⟨w, rfl, hwrites, -⟩ := run_write_granted hw hb h₁
    rcases run_fallible_bind_iff.mp h' with ⟨f, rfl, h₂⟩ | ⟨τ₂, _, τ₃, rfl, h₂, h₃⟩
    · obtain ⟨e, rfl, hok | he | ⟨bytes', hreads, hne⟩⟩ := run_expect_readable hr hb h₂
      · cases hok
      · exact ⟨[w], e, [], rfl, .transfer he⟩
      · exact ⟨[w], e, [], rfl, .readback rfl hwrites hreads hne⟩
    · obtain ⟨pre, e, post, rfl, he⟩ := hrest h₃ hfail
      exact ⟨[w] ++ (τ₂ ++ pre), e, post, by simp only [List.append_assoc],
        Cause.lasting _ _ _ (Cause.lasting _ _ _ he)⟩

end Rules

/-! ## Plans -/

structure Legible (P : Pioneer) (p : Prepared) : Prop where
  base : p.profile.controllerCpuBase = 0xa00000
  guards_ne : p.profile.guards ≠ []
  guards : ∀ g ∈ p.profile.guards, (g.expected ≠ [] ∧ g.expected.length ≤ 4096) ∧
    Readable P p.profile g.cpuAddress g.expected.length
  pointer : Readable P p.profile p.profile.pointerAddress 4
  writePointer : Readable P p.profile p.profile.writePointerAddress 4
  vid : Readable P p.profile p.sites.vid.slot 4
  security : Readable P p.profile p.sites.securitySlot 4
  payload : Readable P p.profile p.allocation.start (p.payload.length % 2 ^ 32)
  resident : Readable P p.profile p.allocation.start (p.original.length % 2 ^ 32)

theorem excused_checkGuards (hl : Legible P p) : Excused p (checkGuards P p.profile) := by
  rw [checkGuards, show (ensure (p.profile.guards ≠ []) Fault.other : Hook Unit) = pure () from
    if_pos hl.guards_ne, pure_bind]
  refine .forM Cause.lasting fun g hg => ?_
  obtain ⟨hexpected, hr⟩ := hl.guards g hg
  rw [checkGuard, show (ensure (g.expected ≠ [] ∧ g.expected.length ≤ 4096) Fault.other
    : Hook Unit) = pure () from if_pos hexpected, pure_bind]
  exact excused_expect hl.base hr fun e bytes' => .guard hg

theorem excused_restorePolicy (hl : Legible P p)
    (hw : Granted P p.profile p.sites.securitySlot (u32ToBeBytes p.sites.securityTable)) :
    Excused p (restorePolicy P p) := by
  refine excused_read hl.base hl.security fun current => ?_
  by_cases hc : current = u32ToBeBytes p.sites.securityTable ∨ current = u32ToBeBytes p.policyTable
  · have hensure : (ensure (current = u32ToBeBytes p.sites.securityTable ∨
        current = u32ToBeBytes p.policyTable) Fault.other : Hook Unit) = pure () := if_pos hc
    right
    dsimp only
    rw [hensure, pure_bind]
    split_ifs
    · have := excused_restore hl.base hw hl.security (.ret () : Excused p (pure ()))
      simpa only [bind_pure_unit] using this
    · exact .ret ()
  · exact .inl fun e hr => .security hr (by simpa using hc)

theorem excused_stage (hl : Legible P p) (hw : ∀ w ∈ p.plannedWrites, Granted P p.profile w.1 w.2) :
    Excused p (stage P p) := by
  have hret : Excused p (pure ()) := .ret ()
  simp only [Prepared.plannedWrites, List.forall_mem_cons] at hw
  obtain ⟨hpayload, hvid, hpointer, -⟩ := hw
  have := excused_restore hl.base hpayload hl.payload (excused_restore hl.base hvid hl.vid
    (excused_restore hl.base hpointer hl.pointer hret))
  simpa only [stage, bind_pure_unit] using this

theorem excused_cleanup (hl : Legible P p)
    (hw : ∀ w ∈ p.plannedWrites, Granted P p.profile w.1 w.2) : Excused p (cleanup P p) := by
  have hret : Excused p (pure ()) := .ret ()
  simp only [Prepared.plannedWrites, List.forall_mem_cons] at hw
  obtain ⟨-, -, -, hpointer, hvid, hsecurity, horiginal, -⟩ := hw
  have hfree := excused_restore hl.base horiginal hl.resident hret
  simp only [bind_pure_unit] at hfree
  exact excused_restore hl.base hpointer hl.pointer <| excused_restore hl.base hvid hl.vid <|
    .seq Cause.lasting (excused_expect hl.base hl.writePointer fun _ _ => .writePointer) fun _ =>
    .seq Cause.lasting (excused_checkGuards hl) fun _ =>
    .seq Cause.lasting (excused_restorePolicy hl hsecurity) fun _ => hfree

theorem run_prepare_legible (h : Run (prepare P existing).run τ (.ok p)) : Legible P p := by
  obtain ⟨image, trampoline, space, table, vidTable, hd⟩ := run_prepare_derived h
  obtain ⟨_, -, hspace⟩ := hd.searched
  obtain ⟨-, _, _, _, _, _, hsearch, -⟩ := run_findFreeSpace_ok hspace
  obtain ⟨⟨derived, -, hguards, -⟩, -⟩ := planProfile_ok hd.planned
  exact {
    base := (run_prepare_placed h).base
    guards_ne := by simp [hguards]
    guards := hsearch.guards
    pointer := hd.pointer
    writePointer := hd.writePointer
    vid := hd.vid
    security := hd.security
    payload := hd.original ▸ hd.resident
    resident := by
      rw [hd.original, Nat.mod_mod, ← hd.original]
      exact hd.resident }

theorem Prepared.Placed.allocation_writable (hp : p.Placed) :
    writableRam p.allocation.start p.original.length = true := by
  have hstop : p.allocation.stop = p.allocation.start + p.original.length :=
    (congrArg Range.stop hp.sized).trans (Range.stop_sized _ _)
  have hpos := hp.positive
  obtain ⟨hstart, hend⟩ : 0xa00000 ≤ p.allocation.start ∧ p.allocation.stop ≤ 0xe00000 :=
    hp.window
  exact writableRam_iff.mpr ⟨by omega, by omega, .inr (by omega)⟩

theorem Prepared.Placed.writable (hp : p.Placed) (hlength : p.payload.length = p.original.length)
    (hpointer : p.profile.pointerAddress ≠ 0) (hvid : writableRam p.sites.vid.slot 4 = true)
    (hsecurity : writableRam p.sites.securitySlot 4 = true) :
    ∀ w ∈ p.plannedWrites, writableRam w.1 w.2.length = true := by
  have halloc := hp.allocation_writable
  have hlow : writableRam p.profile.pointerAddress 4 = true := by
    have := hp.pointer_le
    exact writableRam_iff.mpr ⟨by omega, by omega, .inl ⟨by omega, this⟩⟩
  simp only [Prepared.plannedWrites, List.forall_mem_cons, hlength, hp.installed, hp.vidInstalled,
    length_u32ToBeBytes, List.not_mem_nil, false_implies, implies_true, and_true]
  exact ⟨halloc, hvid, hlow, hlow, hvid, hsecurity, halloc⟩

/-- Both slots that discovery found are RAM, and the payload is as long as what it replaces. -/
theorem run_prepare_writable (h : Run (prepare (P.assembling H S) existing).run τ (.ok p)) :
    p.payload.length = p.original.length ∧ writableRam p.sites.vid.slot 4 = true ∧
      writableRam p.sites.securitySlot 4 = true := by
  obtain ⟨image, t, space, table, vidTable, hd⟩ := run_prepare_derived h
  obtain ⟨base, main, helper, invalid, securityTable, hdiscover, -, -⟩ := build_ok hd.built
  obtain ⟨hvid, hsecurity, -⟩ := Sites.discover_ok hdiscover
  refine ⟨?_, hvid, hsecurity⟩
  rw [hd.original, Nat.mod_eq_of_lt]
  have := hd.payload_lt
  omega

/-- With the pointer away from zero, every planned write is let through. -/
theorem granted_of_prepared (h : Run (prepare (P.assembling H S) existing).run τ (.ok p))
    (hpointer : p.profile.pointerAddress ≠ 0) :
    ∀ w ∈ p.plannedWrites, Granted (P.assembling H S) p.profile w.1 w.2 := by
  have hp := run_prepare_placed h
  obtain ⟨hlength, hvid, hsecurity⟩ := run_prepare_writable h
  exact fun w hw => (granted_iff hp.base).mpr
    (hp.writable hlength hpointer hvid hsecurity w hw)

/-- The codec hands out no READ BUFFER object at address zero. -/
def Pioneer.ObjectsNonzero (P : Pioneer) : Prop :=
  ∀ ⦃image base site⦄, P.readBufferSite image base = .ok site → site.objectAddress ≠ 0

theorem run_prepare_pointer_ne (hP : P.ObjectsNonzero)
    (h : Run (prepare (P.assembling H S) existing).run τ (.ok p)) :
    p.profile.pointerAddress ≠ 0 := by
  obtain ⟨image, _, _, _, _, hd⟩ := run_prepare_derived h
  obtain ⟨⟨derived, hderived, -, -, hpointer⟩, -⟩ := planProfile_ok hd.planned
  obtain ⟨-, base, site, hsite, hobject⟩ := discoverProfile_ok hderived
  rw [hpointer, hobject]
  exact hP (hookSite_ok hsite)

/-- An accepted plan is never refused: all its writes pass the gate, and its transactions fail
only for a reason the drive gives. -/
theorem run_prepare_unrefused (hP : P.ObjectsNonzero)
    (h : Run (prepare (P.assembling H S) existing).run τ (.ok p)) :
    Unrefused (P.assembling H S) p := by
  have hl := run_prepare_legible h
  have hw := granted_of_prepared h (run_prepare_pointer_ne hP h)
  exact ⟨hw, excused_stage hl hw, excused_cleanup hl hw⟩

theorem run_prepare_unrefused_image : ∃ τ p,
    Run (prepare ((imagePioneer 0xe20).assembling sampleH8 sampleSurvey) false).run τ (.ok p) ∧
      Unrefused ((imagePioneer 0xe20).assembling sampleH8 sampleSurvey) p := by
  have hP : (imagePioneer 0xe20).ObjectsNonzero := by
    intro image base site h
    obtain rfl := Except.ok.inj h
    decide
  obtain ⟨τ, p, h⟩ := run_prepare_image
  exact ⟨τ, p, h, run_prepare_unrefused hP h⟩

end FreemkvUnlock.Renesas
