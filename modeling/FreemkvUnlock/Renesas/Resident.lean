import FreemkvUnlock.Renesas.Survey

/-! # Recognising a resident hook

A plan is derived from what preparation reads. Of these bytes an installation changes only the
slots that preparation then expects to find changed, so preparing again comes to the same plan,
and installing it again writes nothing.
-/

namespace FreemkvUnlock.Renesas

open Bytes Interaction Fallible Freemkv

namespace Prepared

/-- What staging and the switch of the policy slot may change. -/
def altered (p : Prepared) : Set ℕ :=
  {x | x ∈ p.allocation} ∪ (p.redirected ∪ {x | x ∈ p.securitySlot})

def slots (p : Prepared) : List Range := [p.pointerSlot, p.vidSlot, p.securitySlot]

/-- The slots lie in RAM and share no byte with each other or with what is watched. The image
stands where it is loaded from and holds the callback table of the Volume ID. -/
structure Separate (p : Prepared) : Prop where
  slots : p.slots.Pairwise Range.Disjoint
  guards : ∀ g ∈ p.profile.guards, ∀ r ∈ p.slots, r.Disjoint g.range
  writePointer : ∀ r ∈ p.slots, r.Disjoint p.writePointerSlot
  vid : writableRam p.sites.vid.slot 4 = true
  security : writableRam p.sites.securitySlot 4 = true
  image : p.profile.normalAddress = 0x410000
  table : (Range.sized p.profile.normalAddress p.profile.normalLength).Contains
    (.sized p.sites.vid.table 40)

instance (p : Prepared) : Decidable p.Separate :=
  decidable_of_iff (p.slots.Pairwise Range.Disjoint ∧
    (∀ g ∈ p.profile.guards, ∀ r ∈ p.slots, r.Disjoint g.range) ∧
    (∀ r ∈ p.slots, r.Disjoint p.writePointerSlot) ∧ writableRam p.sites.vid.slot 4 = true ∧
    writableRam p.sites.securitySlot 4 = true ∧ p.profile.normalAddress = 0x410000 ∧
    (Range.sized p.profile.normalAddress p.profile.normalLength).Contains
      (.sized p.sites.vid.table 40))
    ⟨fun ⟨h₁, h₂, h₃, h₄, h₅, h₆, h₇⟩ => ⟨h₁, h₂, h₃, h₄, h₅, h₆, h₇⟩,
      fun h => ⟨h.slots, h.guards, h.writePointer, h.vid, h.security, h.image, h.table⟩⟩

/-- `N` is `M` with the hook of the plan in it, and perhaps with its policy. -/
structure Resident (p : Prepared) (M N : Memory) : Prop where
  same : Set.EqOn N M p.alteredᶜ
  pointer : N.slice p.profile.pointerAddress 4 = p.installedPointer
  vid : N.slice p.sites.vid.slot 4 = p.vidInstalledPointer
  payload : N.slice p.allocation.start (p.payload.length % 2 ^ 32) = p.payload
  policy : p.PolicyKnown N

/-- The plan as it is derived while the hook is resident. -/
def resident (p : Prepared) : Prepared := { p with original := p.payload }

variable {p : Prepared}

theorem mem_altered_iff {x : ℕ} : x ∈ p.altered ↔ x ∈ p.allocation ∨ ∃ r ∈ p.slots, x ∈ r := by
  simp only [altered, slots, redirected, Set.mem_union, Set.mem_ofPred_eq, List.mem_cons,
    List.not_mem_nil, or_false, exists_eq_or_imp, exists_eq_left]
  tauto

theorem Separate.apart (hs : p.Separate) :
    p.pointerSlot.Disjoint p.vidSlot ∧ p.pointerSlot.Disjoint p.securitySlot ∧
      p.vidSlot.Disjoint p.securitySlot := by
  have := hs.slots
  simp only [Prepared.slots, List.pairwise_cons, List.forall_mem_cons, List.not_mem_nil,
    false_implies, implies_true, List.Pairwise.nil, and_true] at this
  exact ⟨this.1.1, this.1.2, this.2⟩

/-- Nothing that is watched is altered. -/
theorem Placed.watched_notMem (hp : p.Placed) (hs : p.Separate) {x : ℕ} (hx : x ∈ p.watched) :
    x ∈ p.alteredᶜ := by
  rw [Set.mem_compl_iff, mem_altered_iff]
  rintro (ha | ⟨r, hr, hmem⟩)
  · rcases hx with ⟨g, hg, hmem⟩ | hmem
    · exact Range.disjoint_iff.mp (hp.guards g hg) x ha hmem
    · exact Range.disjoint_iff.mp hp.writePointer x ha hmem
  · rcases hx with ⟨g, hg, hguard⟩ | hwrite
    · exact Range.disjoint_iff.mp (hs.guards g hg r hr) x hmem hguard
    · exact Range.disjoint_iff.mp (hs.writePointer r hr) x hmem hwrite

/-- Between low memory and controller memory nothing is altered. -/
theorem Placed.rom_notMem (hp : p.Placed) (hs : p.Separate) {x : ℕ} (hx : 0x8000 ≤ x)
    (hx' : x < 0xa00000) : x ∈ p.alteredᶜ := by
  have hvid := writableRam_iff.mp hs.vid
  have hsecurity := writableRam_iff.mp hs.security
  have hpointer := hp.pointer_le
  have halloc : 0xa00000 ≤ p.allocation.start := hp.window.1
  rintro (h | (h | h) | h)
  · have : p.allocation.start ≤ x := h.1
    omega
  · obtain ⟨-, h⟩ := Range.mem_sized.mp h
    omega
  · obtain ⟨h₁, h₂⟩ := Range.mem_sized.mp h
    omega
  · obtain ⟨h₁, h₂⟩ := Range.mem_sized.mp h
    omega

end Prepared

variable {P : Pioneer} {profile : Profile} {p : Prepared} {M N : Memory}
  {τ σ ω : List (Event Scsi)} {s : Set ℕ} {α : Type}

/-! ## What is not altered -/

theorem Prepared.Placed.image_notMem (hp : p.Placed) (hs : p.Separate)
    (hv : validate P p.profile = .ok ()) {x : ℕ}
    (hx : x ∈ Range.sized p.profile.normalAddress p.profile.normalLength) : x ∈ p.alteredᶜ := by
  have hlength := (validate_ok hv).2.2.2.1
  obtain ⟨h₁, h₂⟩ := Range.mem_sized.mp hx
  have himage := hs.image
  exact hp.rom_notMem hs (by omega) (by omega)

/-- The search reads nothing that an installation alters. -/
theorem readsWithin_findFreeSpace {size alignment : ℕ} {space : FreeSpace} {image : List UInt8}
    (hp : p.Placed) (hs : p.Separate) (himage : image = M.slice 0x410000 image.length)
    (hplan : planProfile P image p.sites = .ok p.profile)
    (h : Run (findFreeSpace P p.profile size alignment).run τ (.ok space))
    (ha : ∀ e ∈ τ, transfers.allows M e M) : ∀ e ∈ τ, ReadsWithin p.alteredᶜ e := by
  obtain ⟨hvalid, image', derived', hderived', hlength', hall⟩ := observed_findFreeSpace h
  obtain ⟨⟨derived, hderived, hguards, hlength, -⟩, -⟩ := planProfile_ok hplan
  -- The image that is read again is the one that was loaded, and so are its guards.
  obtain rfl : image' = image := by
    cases hall with
    | cons hread _ =>
      have hslice : M.slice p.profile.normalAddress image'.length = image' :=
        (allows_of_reads hread (ha _ List.mem_cons_self)).2
      rw [← hslice, himage, hs.image, hlength', hlength, (discoverProfile_ok hderived).1]
  obtain rfl := Except.ok.inj (hderived'.symm.trans hderived)
  refine readsWithin_of_observed hall ?_
  simp only [List.forall_mem_cons, List.forall_mem_map, List.forall_mem_append]
  refine ⟨?_, fun g hg x hx => ?_, fun g hg x hx => ?_⟩
  · rw [hlength']
    exact fun x hx => hp.image_notMem hs hvalid hx
  · exact hp.watched_notMem hs (.inl ⟨g, hg, hx⟩)
  · exact hp.watched_notMem hs (.inl ⟨g, by simp [hguards, hg], hx⟩)

/-! ## Preparing again -/

theorem transfers_of_answering {e : Event Scsi} (h : (answering σ).allows M e N) :
    transfers.allows M e N := h.1

theorem legible_resident (hl : Legible P p) : Legible P p.resident :=
  ⟨hl.base, hl.guards_ne, hl.guards, hl.pointer, hl.writePointer, hl.vid, hl.security, hl.payload,
    hl.payload⟩

section Again

variable (hs : p.Separate) (hN : p.Resident M N)
include hs hN

/-- While the hook is resident, preparation comes to the plan it came to before. -/
theorem succeeds_prepare (h : Run (prepare P false).run σ (.ok p))
    (hserves : ∀ e ∈ σ, Serves P M e) (hf : (answering σ).Follows M σ M) :
    (answering σ).Succeeds (· = N) (prepare P true) fun q N' => q = p.resident ∧ N' = N := by
  have hp := run_prepare_placed h
  have hl := run_prepare_legible h
  obtain ⟨-, hall⟩ := allowed_of_follows hf (List.Subset.refl σ) (issues_prepare inquires_reads _ h)
  obtain ⟨image, t, space, oem, table, relocated, tabled, oemVid, vidTable, hd⟩ := prepares_of_run h
  have hexpect {cpu n : ℕ} {bytes : List UInt8} (hr : Readable P p.profile cpu n)
      (h : N.slice cpu n = bytes) : (answering σ).Succeeds (· = N)
        (expect P p.profile cpu n bytes) fun _ => (· = N) :=
    (succeeds_expect hl.base hr fun N' hN' => hN' ▸ h).anti fun _ _ _ => transfers_of_answering
  have hread {cpu n : ℕ} (hr : Readable P p.profile cpu n) : (answering σ).Succeeds (· = N)
      (read P p.profile cpu n) fun b N' => b = N.slice cpu n ∧ N' = N :=
    ((succeeds_read hl.base hr).anti fun _ _ _ => transfers_of_answering).post
      fun b N' ⟨hN', hb⟩ => ⟨hN' ▸ hb, hN'⟩
  obtain ⟨τ₁, hτ₁, henabled⟩ := hd.enabled
  obtain ⟨τ₂, hτ₂, hloaded⟩ := hd.loaded
  obtain ⟨τ₃, hτ₃, hfound⟩ := hd.found
  obtain ⟨τ₄, hτ₄, hwrite⟩ := hd.writePointer
  obtain ⟨τ₅, hτ₅, hoem⟩ := hd.readTable
  obtain ⟨τ₆, hτ₆, hoemVid⟩ := hd.readVidTable
  obtain ⟨himage, hloads⟩ := run_loadNormal_ok (s := p.alteredᶜ)
    (fun e he => hserves e (hτ₂ he)) hloaded
  have hvalid := (observed_findFreeSpace hfound).1
  refine .seq_eq (succeeds_again hall hN.same henabled hτ₁ ?_) ?_
  · exact (Issues.seq (issues_genericCdb readsWithin_command _ _ _) fun _ => .ensure _ _) henabled
  refine .seq_eq (succeeds_again hall hN.same hloaded hτ₂ hloads) ?_
  refine .seq_eq (.result fun _ hv => ⟨_, hd.built, rfl, hv⟩) ?_
  refine .seq_eq (.result fun _ hv => ⟨_, hd.planned, rfl, hv⟩) ?_
  refine .seq_eq (succeeds_again hall hN.same hfound hτ₃ (readsWithin_findFreeSpace hp hs himage
    hd.planned hfound fun e he => (hall e (hτ₃ he)).1)) ?_
  simp only [if_true, ← hd.allocation]
  rw [← hd.installed, ← hd.vidInstalled]
  refine .seq (hexpect hl.pointer hN.pointer) fun _ => ?_
  refine .seq_eq (succeeds_again hall hN.same hwrite hτ₄ (readsWithin_of_observed
    (observed_expect hl.base hwrite) ?_)) ?_
  · simp only [List.mem_singleton, forall_eq, length_u32ToBeBytes]
    exact fun x hx => hp.watched_notMem hs (.inr hx)
  refine .seq (hexpect hl.vid hN.vid) fun _ => ?_
  refine .seq_eq (succeeds_again hall hN.same hoem hτ₅ (readsWithin_read hl.base hoem fun x hx =>
    hp.image_notMem hs hvalid ((validate_table hvalid).mem hx))) ?_
  refine .seq_eq (.result fun _ hv => ⟨_, hd.hooked, rfl, hv⟩) ?_
  refine .seq_eq (.result fun _ hv => ⟨_, hd.relocates, rfl, hv⟩) ?_
  refine .seq_eq (.result fun _ hv => ⟨_, hd.places, rfl, hv⟩) ?_
  refine .seq_eq (succeeds_again hall hN.same hoemVid hτ₆ (readsWithin_read hl.base hoemVid
    fun x hx => hp.image_notMem hs hvalid (hs.table.mem hx))) ?_
  refine .seq_eq (.result fun _ hv => ⟨_, hd.vidHooked, rfl, hv⟩) ?_
  refine .seq_eq (.result fun _ hv => ⟨_, hd.payload, rfl, hv⟩) ?_
  refine .seq_eq (hread hl.payload) (.seq (hexpect hl.payload rfl) fun _ => ?_)
  refine .seq (.ensure fun _ _ _ => hN.payload) fun _ => .seq_eq (hread hl.security) ?_
  refine .seq (.ensure fun _ _ => hN.policy.imp_right fun h => ⟨trivial, h⟩) fun _ => ?_
  refine .ret fun N' hN' => ⟨?_, hN'⟩
  rw [hN.payload]
  rfl

end Again

/-! ## Installing -/

theorem succeeds_checkPrepared {existing : Bool} (hl : Legible P p)
    (hguards : ∀ g ∈ p.profile.guards, N.slice g.cpuAddress g.expected.length = g.expected)
    (hsecurity : N.slice p.sites.securitySlot 4 = u32ToBeBytes p.sites.securityTable ∨
      existing = true ∧ N.slice p.sites.securitySlot 4 = u32ToBeBytes p.policyTable)
    (hpointer : N.slice p.profile.pointerAddress 4 =
      if existing then p.installedPointer else u32ToBeBytes p.profile.originalTable)
    (hwrite : N.slice p.profile.writePointerAddress 4 = u32ToBeBytes p.profile.writeOriginalTable)
    (hvid : N.slice p.sites.vid.slot 4 =
      if existing then p.vidInstalledPointer else u32ToBeBytes p.sites.vid.table)
    (halloc : N.slice p.allocation.start (p.original.length % 2 ^ 32) = p.original) :
    transfers.Succeeds (· = N) (checkPrepared P p existing) fun _ => (· = N) := by
  have hexpect {cpu n : ℕ} {bytes : List UInt8} (hr : Readable P p.profile cpu n)
      (h : N.slice cpu n = bytes) :
      transfers.Succeeds (· = N) (expect P p.profile cpu n bytes) fun _ => (· = N) :=
    succeeds_expect hl.base hr fun N' hN' => hN' ▸ h
  refine .seq (succeeds_checkGuards hl fun N' hN' => hN' ▸ hguards) fun _ => ?_
  refine .seq (succeeds_read hl.base hl.security) fun security => .seq (.ensure ?_) fun _ => ?_
  · rintro N' ⟨rfl, rfl⟩
    exact hsecurity
  refine .pre ?_ fun N' (h : N' = N ∧ _) => h.1
  exact .seq (hexpect hl.pointer hpointer) fun _ => .seq (hexpect hl.writePointer hwrite) fun _ =>
    .seq (hexpect hl.vid hvid) fun _ => hexpect hl.resident halloc

def Prepared.staged (p : Prepared) (M : Memory) : Memory :=
  ((M.overwrite p.allocation.start p.payload).overwrite p.sites.vid.slot
    p.vidInstalledPointer).overwrite p.profile.pointerAddress p.installedPointer

theorem succeeds_stage (hl : Legible P p) (hp : p.Placed)
    (hw : ∀ w ∈ p.plannedWrites, Granted P p.profile w.1 w.2) :
    transfers.Succeeds (· = M) (stage P p) fun _ => (· = p.staged M) := by
  simp only [Prepared.plannedWrites, List.forall_mem_cons] at hw
  obtain ⟨hpayload, hvid, hpointer, -⟩ := hw
  have hsize : p.payload.length < 2 ^ 32 := by
    obtain ⟨⟨_, _⟩, ht⟩ := hpayload
    exact (transferTarget_eq hl.base ht).2.1
  refine succeeds_store_seq (R := (· = M.overwrite p.allocation.start p.payload)) hl.base hpayload
    hl.payload (Nat.mod_eq_of_lt hsize).symm (fun _ h => h ▸ rfl) ?_
  refine succeeds_store_seq (R := (· = (M.overwrite p.allocation.start p.payload).overwrite
    p.sites.vid.slot p.vidInstalledPointer)) hl.base hvid hl.vid hp.vidInstalled
    (fun _ h => h ▸ rfl) ?_
  exact succeeds_store hl.base hpointer hl.pointer hp.installed fun _ h => h ▸ rfl

/-- In the staged memory the hook is resident, whatever becomes of the policy slot. -/
theorem resident_of_staged (hp : p.Placed) (hs : p.Separate) (hlt : p.payload.length < 2 ^ 32)
    (hother : Set.EqOn N (p.staged M) {x | x ∉ p.securitySlot}) (hknown : p.PolicyKnown N) :
    p.Resident M N := by
  have hlength : p.payload.length % 2 ^ 32 = p.payload.length := Nat.mod_eq_of_lt hlt
  have halloc : Range.sized p.allocation.start p.payload.length = p.allocation :=
    hp.payload_range hlt
  have hkept {r : Range} (hr : r.Disjoint p.securitySlot) :
      ∀ x ∈ r, x ∈ {x | x ∉ p.securitySlot} := Range.disjoint_iff.mp hr
  have hinstalled {M : Memory} {a : ℕ} {bytes : List UInt8} (hn : bytes.length = 4) :
      (M.overwrite a bytes).slice a 4 = bytes := hn ▸ Memory.slice_overwrite_self
  exact {
    same := by
      intro x hx
      have hpolicy : x ∉ p.securitySlot := fun h => hx (.inr (.inr h))
      have hpointer : x ∉ p.pointerSlot := fun h => hx (.inr (.inl (.inl h)))
      have hvid : x ∉ p.vidSlot := fun h => hx (.inr (.inl (.inr h)))
      have hfree : x ∉ p.allocation := fun h => hx (.inl h)
      rw [hother hpolicy, Prepared.staged, Memory.overwrite_of_notMem (by rwa [hp.installed]),
        Memory.overwrite_of_notMem (by rwa [hp.vidInstalled]),
        Memory.overwrite_of_notMem (by rwa [halloc])]
    pointer := (Memory.slice_eq_of_eqOn hother (hkept hs.apart.2.1)).trans (hinstalled hp.installed)
    vid := by
      rw [Memory.slice_eq_of_eqOn hother (hkept hs.apart.2.2), Prepared.staged,
        Memory.slice_overwrite_of_disjoint (by rw [hp.installed]; exact hs.apart.1.symm)]
      exact hinstalled hp.vidInstalled
    payload := by
      rw [hlength, Memory.slice_eq_of_eqOn hother (hkept (halloc ▸ hp.security)), Prepared.staged,
        Memory.slice_overwrite_of_disjoint (by rw [halloc, hp.installed]; exact hp.pointer),
        Memory.slice_overwrite_of_disjoint (by rw [halloc, hp.vidInstalled]; exact hp.vid)]
      exact Memory.slice_overwrite_self
    policy := hknown }

theorem ensures_install_resident {Q : Memory → Prop}
    (hc : transfers.Succeeds Q (checkPrepared P p true) fun _ => Q) :
    transfers.Ensures Q (install P (.planned p true) true) fun r N =>
      r = (.ok (), .committed p true) ∧ Q N := by
  refine .bind hc.mapErr fun r => ?_
  cases r with
  | error e =>
    rintro _ _ _ _ ⟨_, he, -⟩
    cases he
  | ok u =>
    refine .pure ?_
    rintro N ⟨_, -, hN⟩
    exact ⟨rfl, hN⟩

theorem ensures_install_fresh {Q R : Memory → Prop}
    (hc : transfers.Succeeds Q (checkPrepared P p false) fun _ => Q)
    (hstage : transfers.Succeeds Q (stage P p) fun _ => R) :
    transfers.Ensures Q (install P (.planned p false) false) fun r N =>
      r = (.ok (), .committed p false) ∧ R N := by
  refine .bind hc.mapErr fun r => ?_
  cases r with
  | error e =>
    rintro _ _ _ _ ⟨_, he, -⟩
    cases he
  | ok u =>
    refine .bind ((hstage.mapErr (f := transactionError)).pre fun N ⟨_, _, hN⟩ => hN) fun r => ?_
    refine .pure ?_
    rintro N ⟨_, rfl, hN⟩
    exact ⟨rfl, hN⟩

section Cycle

variable {V : Type} {drive : Handler Scsi V} {view : V → Memory} {s₀ s₁ s₂ s₃ : V}
  {planned installed : List (Event Scsi)}

/-- What preparation saw, and that it left the memory alone. -/
theorem seen_of_prepare (hk : (answering planned).KeptBy drive view)
    (hprepare : exec drive (prepare P false).run s₀ = some (.ok p, planned, s₁)) :
    view s₁ = view s₀ ∧ p.Unhooked (view s₀) ∧
      (answering planned).Follows (view s₀) planned (view s₀) := by
  have h := run_of_exec hprepare
  have hfollows := hk.follows hprepare
  obtain ⟨hsame, hall⟩ := allowed_of_follows hfollows (List.Subset.refl planned)
    (issues_prepare inquires_reads _ h)
  exact ⟨hsame, unhooked_of_prepare h fun e he => (hall e he).1, hsame ▸ hfollows⟩

/-- A plan whose slots are separate and whose writes all go to RAM is installed as planned. -/
theorem installed_of_prepare (hk : (answering planned).KeptBy drive view)
    (hprepare : exec drive (prepare P false).run s₀ = some (.ok p, planned, s₁))
    (hw : ∀ w ∈ p.plannedWrites, writableRam w.1 w.2.length = true) :
    ∃ installed s₂, exec drive (install P (.planned p false) false) s₁ =
        some ((.ok (), .committed p false), installed, s₂) ∧ view s₂ = p.staged (view s₁) ∧
      p.payload.length < 2 ^ 32 := by
  have h := run_of_exec hprepare
  have hp := run_prepare_placed h
  have hl := run_prepare_legible h
  have hkept : transfers.KeptBy drive view := fun o s => (hk o s).1
  obtain ⟨hsame, hM, -⟩ := seen_of_prepare hk hprepare
  rw [← hsame] at hM
  have hgranted : ∀ w ∈ p.plannedWrites, Granted P p.profile w.1 w.2 :=
    fun w hmem => (granted_iff hp.base).mpr (hw w hmem)
  have hlt : p.payload.length < 2 ^ 32 := by
    have hend : p.allocation.start + p.payload.length < 2 ^ 32 :=
      (writableRam_iff.mp (hw _ List.mem_cons_self)).2.1
    omega
  have hoccupied :
      (view s₁).slice p.allocation.start (p.original.length % 2 ^ 32) = p.original := by
    rw [Nat.mod_eq_of_lt (hp.bounded.trans_lt (by decide))]
    exact hM.allocation
  have hcheck : transfers.Succeeds (· = view s₁) (checkPrepared P p false)
      fun _ => (· = view s₁) :=
    succeeds_checkPrepared hl hM.guards (.inl hM.security) hM.pointer hM.writePointer hM.vid
      hoccupied
  obtain ⟨r, installed, s₂, hinstall⟩ := Settles.exec (settles_install (P := P)) s₁
  obtain ⟨rfl, hs₂⟩ := (ensures_install_fresh hcheck (succeeds_stage hl hp hgranted)).of_exec hkept
    rfl hinstall
  exact ⟨installed, s₂, hinstall, hs₂, hlt⟩

/-- From `s` on, preparing and installing for a resident hook come to the plan `p`, succeed, and
write nothing. -/
def Recognised (P : Pioneer) (p : Prepared) (drive : Handler Scsi V) (view : V → Memory) (s : V) :
    Prop :=
  ∃ again idle s' s'', exec drive (prepare P true).run s = some (.ok p.resident, again, s') ∧
    exec drive (install P (.planned p.resident true) true) s' =
      some ((.ok (), .committed p.resident true), idle, s'') ∧
    (∀ e ∈ again ++ idle, dataOut? e = none) ∧ view s'' = view s

theorem recognised_of_resident (hk : (answering planned).KeptBy drive view)
    (hprepare : exec drive (prepare P false).run s₀ = some (.ok p, planned, s₁))
    (hserves : ∀ e ∈ planned, Serves P (view s₀) e) (hs : p.Separate)
    (hN : p.Resident (view s₀) (view s₃)) : Recognised P p drive view s₃ := by
  have h := run_of_exec hprepare
  have hp := run_prepare_placed h
  have hl := run_prepare_legible h
  have hkept : transfers.KeptBy drive view := fun o s => (hk o s).1
  obtain ⟨-, hM, hfollows⟩ := seen_of_prepare hk hprepare
  have hwatched {a n : ℕ} (h : ∀ x ∈ Range.sized a n, x ∈ p.watched) :
      (view s₃).slice a n = (view s₀).slice a n :=
    Memory.slice_eq_of_eqOn hN.same fun x hx => hp.watched_notMem hs (h x hx)
  have hidle : transfers.Succeeds (· = view s₃) (checkPrepared P p.resident true)
      fun _ => (· = view s₃) :=
    succeeds_checkPrepared (legible_resident hl)
      (fun g hg => (hwatched fun x hx => .inl ⟨g, hg, hx⟩).trans (hM.guards g hg))
      (hN.policy.imp_right fun h => ⟨rfl, h⟩) hN.pointer
      ((hwatched fun x hx => .inr hx).trans hM.writePointer) hN.vid hN.payload
  obtain ⟨r, again, s₄, hagain⟩ := Settles.exec (settles_prepare (P := P)) s₃
  obtain ⟨_, rfl, rfl, hs₄⟩ := (succeeds_prepare hs hN h hserves hfollows).of_exec hk rfl hagain
  obtain ⟨rs, idle, s₅, hinstalled⟩ := Settles.exec (settles_install (P := P)) s₄
  obtain ⟨rfl, hs₅⟩ := (ensures_install_resident hidle).of_exec hkept hs₄ hinstalled
  refine ⟨again, idle, s₄, s₅, hagain, hinstalled, ?_, hs₅⟩
  rw [List.forall_mem_append]
  refine ⟨fun e he => (issues_prepare quiet_reads _ (run_of_exec hagain) e he).1, fun e he => ?_⟩
  rcases run_install (run_of_exec hinstalled) with ⟨-, -, hquiet⟩ |
    ⟨-, checked', staged', rfl, hcheck', ⟨-, rfl, -⟩ | ⟨hi, -⟩⟩
  · exact (hquiet e he).1
  · rw [List.append_nil] at he
    exact (issues_checkPrepared quiet_reads _ hcheck' e he).1
  · cases hi

/-- An accepted plan is installed, and from then on, whichever of its two policies is in force, the
hook is recognised. -/
theorem prepare_resident (hk : (answering planned).KeptBy drive view)
    (hprepare : exec drive (prepare P false).run s₀ = some (.ok p, planned, s₁))
    (hserves : ∀ e ∈ planned, Serves P (view s₀) e)
    (hw : ∀ w ∈ p.plannedWrites, writableRam w.1 w.2.length = true) (hs : p.Separate) :
    ∃ installed s₂, exec drive (install P (.planned p false) false) s₁ =
        some ((.ok (), .committed p false), installed, s₂) ∧
      ∀ s₃, Set.EqOn (view s₃) (view s₂) {x | x ∉ p.securitySlot} → p.PolicyKnown (view s₃) →
        p.Resident (view s₀) (view s₃) ∧ Recognised P p drive view s₃ := by
  obtain ⟨installed, s₂, hinstall, hs₂, hlt⟩ := installed_of_prepare hk hprepare hw
  obtain ⟨hsame, -⟩ := seen_of_prepare hk hprepare
  refine ⟨installed, s₂, hinstall, fun s₃ hother hpolicy => ?_⟩
  rw [hs₂, hsame] at hother
  have hN := resident_of_staged (run_prepare_placed (run_of_exec hprepare)) hs hlt hother hpolicy
  exact ⟨hN, recognised_of_resident hk hprepare hserves hs hN⟩

end Cycle

/-! ## A drive that keeps answering -/

theorem serves_romDrive {e : Event Scsi} (h : ∃ t, e.2 = (romDrive e.1 t).1) :
    Serves samplePioneer sampleMemory e := by
  rintro a n o r ha hn rfl - -
  obtain ⟨t, ht⟩ := h
  obtain rfl : o = (romDrive (readAt samplePioneer a n) t).1 := ht
  have hreply : sampleRespond false (samplePioneer.readMemory a n) sampleMemory =
      (some (sampleMemory.slice a n), sampleMemory) :=
    sampleRespond_readMemory (by omega) (by omega)
  change List.take _ (fillBuffer _ ((sampleRespond false (samplePioneer.readMemory a n)
    sampleMemory).1.getD [])).toList = _
  rw [hreply, Option.getD_some, toList_fillBuffer (by simp)]

theorem answering_keptBy_romDrive (h : ∀ e ∈ τ, ∃ t, e.2 = (romDrive e.1 t).1) :
    (answering τ).KeptBy romDrive id := by
  refine fun o M => ⟨keptBy_memoryDrive _ o M, ?_⟩
  rintro cdb dir data ms answer he rfl
  obtain ⟨t, ht⟩ := h _ he
  obtain rfl : answer = (romDrive (.execute cdb dir data ms) t).1 := ht
  exact ⟨rfl, rfl⟩

theorem planProfile_sample {image : List UInt8} {sites : Sites}
    (h : planProfile samplePioneer image sites = .ok profile) :
    profile.normalAddress = 0x410000 ∧ profile.writePointerAddress = 0xe24 ∧
      profile.guards = [⟨0xa00ffc, [0xa5, 0xa5]⟩, sites.acquisition, sites.reset] := by
  obtain ⟨derived, hd, h⟩ := except_bind_eq_ok_iff.mp h
  obtain ⟨_, -, h⟩ := except_bind_eq_ok_iff.mp h
  obtain rfl := Except.ok.inj h
  obtain ⟨layout, hlayout, hd⟩ := except_bind_eq_ok_iff.mp hd
  obtain rfl := Except.ok.inj hlayout
  obtain ⟨_, -, hd⟩ := except_bind_eq_ok_iff.mp hd
  obtain ⟨base, hbase, hd⟩ := except_bind_eq_ok_iff.mp hd
  obtain rfl := Option.some.inj (okOr_eq_ok_iff.mp hbase)
  obtain ⟨_, -, hd⟩ := except_bind_eq_ok_iff.mp hd
  obtain ⟨write, hwrite, hd⟩ := except_bind_eq_ok_iff.mp hd
  obtain rfl := Except.ok.inj hwrite
  obtain ⟨_, -, hd⟩ := except_bind_eq_ok_iff.mp hd
  obtain ⟨_, -, hd⟩ := except_bind_eq_ok_iff.mp hd
  obtain ⟨_, -, hd⟩ := except_bind_eq_ok_iff.mp hd
  obtain rfl := Except.ok.inj hd
  exact ⟨rfl, rfl, rfl⟩

theorem separate_sample (h : Run (prepare samplePioneer false).run τ (.ok p)) : p.Separate := by
  obtain ⟨hbuild, hpointer, -⟩ := sited_sample h
  have hsites := (Except.ok.inj hbuild).symm
  obtain ⟨image, _, _, _, _, hd⟩ := run_prepare_derived h
  obtain ⟨himage, hwrite, hguards⟩ := planProfile_sample hd.planned
  obtain ⟨_, -, hfound⟩ := hd.searched
  have hvalid := validate_length (observed_findFreeSpace hfound).1
  have hslots : p.slots = [.sized 0xe20 4, .sized 0xe28 4, .sized 0x13b6 4] := by
    rw [Prepared.slots, Prepared.pointerSlot, Prepared.vidSlot, Prepared.securitySlot, hpointer,
      hsites]
  refine ⟨?_, ?_, ?_, ?_, ?_, himage, ?_⟩
  · rw [hslots]
    decide
  · rw [hslots, hguards, hsites]
    decide
  · rw [hslots, Prepared.writePointerSlot, hwrite]
    decide
  · rw [hsites]
    decide
  · rw [hsites]
    decide
  · rw [himage, hsites]
    change 0x410000 ≤ 0x410180 ∧ 0x410180 + 40 ≤ 0x410000 + p.profile.normalLength
    omega

theorem prepare_resident_sample : ∃ (p : Prepared) (M N : Memory) (installed : List (Event Scsi)),
    exec romDrive (install samplePioneer (.planned p false) false) M =
        some ((.ok (), .committed p false), installed, N) ∧
      ∀ N', Set.EqOn N' N {x | x ∉ p.securitySlot} → p.PolicyKnown N' →
        p.Resident sampleMemory N' ∧ Recognised samplePioneer p romDrive id N' := by
  obtain ⟨p, planned, _, M, _, hprepare, -⟩ := romDrive_checks
  have h := run_of_exec hprepare
  obtain ⟨-, -, hw⟩ := sited_sample h
  have hanswers := answers_of_exec hprepare
  obtain ⟨installed, N, hinstall, hN⟩ := prepare_resident (answering_keptBy_romDrive hanswers)
    hprepare (fun e he => serves_romDrive (hanswers e he)) hw (separate_sample h)
  exact ⟨p, M, N, installed, hinstall, hN⟩

end FreemkvUnlock.Renesas
