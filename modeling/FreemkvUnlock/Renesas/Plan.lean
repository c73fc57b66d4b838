import FreemkvUnlock.Renesas.Access

/-! # What a prepared plan promises

A plan that preparation accepts has its allocation in controller memory, exactly as long as the
payload and the saved original, and apart from every slot and guard the installation uses.
-/

namespace FreemkvUnlock.Renesas

open Bytes Interaction Fallible

def Guard.range (guard : Guard) : Range := .sized guard.cpuAddress guard.expected.length

namespace Prepared

def pointerSlot (p : Prepared) : Range := .sized p.profile.pointerAddress 4

def writePointerSlot (p : Prepared) : Range := .sized p.profile.writePointerAddress 4

def vidSlot (p : Prepared) : Range := .sized p.sites.vid.slot 4

def securitySlot (p : Prepared) : Range := .sized p.sites.securitySlot 4

/-- The invariant of prepared plans. -/
structure Placed (p : Prepared) : Prop where
  base : p.profile.controllerCpuBase = 0xa00000
  pointer_le : p.profile.pointerAddress + 4 ≤ 0x8000
  writePointer_le : p.profile.writePointerAddress + 4 ≤ 0x8000
  window : Range.Contains ⟨0xa00000, 0xe00000⟩ p.allocation
  sized : p.allocation = .sized p.allocation.start p.original.length
  positive : 0 < p.original.length
  bounded : p.original.length ≤ maxPayload
  payload : p.payload.length % 2 ^ 32 = p.original.length
  vid : p.allocation.Disjoint p.vidSlot
  security : p.allocation.Disjoint p.securitySlot
  guards : ∀ g ∈ p.profile.guards, p.allocation.Disjoint g.range
  installed : p.installedPointer.length = 4
  vidInstalled : p.vidInstalledPointer.length = 4

variable {p : Prepared}

/-- A write of the payload, where it is issued, covers exactly the allocation. -/
theorem Placed.payload_range (hp : p.Placed) (h : p.payload.length < 2 ^ 32) :
    Range.sized p.allocation.start p.payload.length = p.allocation := by
  rw [← Nat.mod_eq_of_lt h, hp.payload, ← hp.sized]

theorem Placed.pointer (h : p.Placed) : p.allocation.Disjoint p.pointerSlot := by
  have := h.pointer_le
  have := h.window.1
  simp only [Range.Disjoint, pointerSlot, Range.start_sized, Range.stop_sized] at *
  omega

theorem Placed.writePointer (h : p.Placed) : p.allocation.Disjoint p.writePointerSlot := by
  have := h.writePointer_le
  have := h.window.1
  simp only [Range.Disjoint, writePointerSlot, Range.start_sized, Range.stop_sized] at *
  omega

end Prepared

variable {P : Pioneer} {profile : Profile} {τ : List (Event Scsi)}

theorem length_copyInto {buffer bytes out : List UInt8} {offset : ℕ}
    (h : copyInto buffer offset bytes = .ok out) : out.length = buffer.length := by
  obtain ⟨_, hc, h⟩ := except_bind_eq_ok_iff.mp h
  have := check_eq_ok_iff.mp hc
  obtain rfl := Except.ok.inj h
  simp only [List.length_append, List.length_take, List.length_drop]
  omega

theorem length_relocate {space : FreeSpace} {payload out : List UInt8} {r : Relocation}
    (h : relocate space payload r = .ok out) : out.length = payload.length := by
  obtain ⟨_, -, h⟩ := except_bind_eq_ok_iff.mp h
  exact length_copyInto h

/-- The facts of a validated profile that placement rests on. -/
theorem validate_ok {u : Unit} (h : validate P profile = .ok u) :
    profile.controllerCpuBase = 0xa00000 ∧ profile.pointerAddress + 4 ≤ 0x8000 ∧
      profile.writePointerAddress + 4 ≤ 0x8000 ∧ profile.normalLength ≤ 0x400000 ∧
      ∀ w ∈ profile.reservedWindows, Range.Contains ⟨0xa00000, 0xe00000⟩ w := by
  simp only [validate, except_bind_eq_ok_iff, check_eq_ok_iff, exists_const] at h
  obtain ⟨-, -, hlen, -, hbase, hptr, -, hwptr, normal, -, table, -, -, wtable, -, -, ram, hram,
    hw⟩ := h
  refine ⟨hbase, hptr.2, hwptr.2.1, hlen.2, fun w hmem => ?_⟩
  have hc := (hw.2 w hmem).2
  rw [P.rangeNew_eq hram, hbase] at hc
  exact hc

theorem validate_length {u : Unit} (h : validate P profile = .ok u) :
    0x1100 ≤ profile.normalLength := by
  simp only [validate, except_bind_eq_ok_iff, check_eq_ok_iff, exists_const] at h
  exact h.2.2.1.1

theorem validate_table {u : Unit} (h : validate P profile = .ok u) :
    (Range.sized profile.normalAddress profile.normalLength).Contains
      (.sized profile.originalTable 40) := by
  simp only [validate, except_bind_eq_ok_iff, check_eq_ok_iff, exists_const] at h
  obtain ⟨-, -, -, -, -, -, hlength, -, normal, hnormal, table, htable, hcontains, -⟩ := h
  rw [P.rangeNew_eq hnormal, P.rangeNew_eq htable, hlength.1] at hcontains
  exact hcontains

theorem guardRange_ok {guard : Guard} {r : Range} (h : guardRange P guard = .ok r) :
    r = guard.range := by
  obtain ⟨n, hn, h⟩ := except_bind_eq_ok_iff.mp h
  obtain ⟨-, rfl⟩ := u32TryFrom_eq_ok.mp hn
  exact P.rangeNew_eq h

/-- What is known of free regions: the live image, its layout and profile, everything that was
counted as occupied, and the regions found. -/
structure Search (P : Pioneer) (profile : Profile) (alignment : ℕ) (τ : List (Event Scsi))
    (image : List UInt8) (layout : Layout P.Entry) (derived : Profile)
    (occupied free : List Range) : Prop where
  valid : validate P profile = .ok ()
  live : ∃ e ∈ τ, Reads e profile.normalAddress image
  hash : P.sha256 image = profile.normalSha256
  inspected : P.inspect image = .ok layout
  profiled : discoverProfile P image = .ok derived
  windows : ∀ w ∈ profile.reservedWindows, ∃ d ∈ derived.reservedWindows, d.Contains w
  guards : ∀ g ∈ profile.guards, (g.expected ≠ [] ∧ g.expected.length ≤ 4096) ∧
    Readable P profile g.cpuAddress g.expected.length
  reserved : ∀ o ∈ derived.occupied ++ profile.occupied ++ layout.overlayRanges, o ∈ occupied
  guarded : ∀ g ∈ profile.guards ++ derived.guards, g.range ∈ occupied
  buffers : ∀ entry ∈ layout.bufferTables.flatten, ∀ r,
    P.entryRange entry profile.controllerCpuBase 0x400000 = .ok (some r) → r ∈ occupied
  found : P.freeRanges profile.reservedWindows occupied alignment = .ok free

theorem run_checkGuards_ok {u : Unit} (h : Run (checkGuards P profile).run τ (.ok u)) :
    profile.guards ≠ [] ∧
      ∀ g ∈ profile.guards, (g.expected ≠ [] ∧ g.expected.length ≤ 4096) ∧
        Readable P profile g.cpuAddress g.expected.length := by
  obtain ⟨_, _, _, rfl, hne, h⟩ := run_fallible_bind_ok_iff.mp h
  refine ⟨(run_ensure_ok_iff.mp hne).2, fun g hg => ?_⟩
  obtain ⟨_, h⟩ := run_forM_ok h g hg
  obtain ⟨_, _, _, rfl, h₁, h₂⟩ := run_fallible_bind_ok_iff.mp h
  exact ⟨(run_ensure_ok_iff.mp h₁).2, readable_of_run_expect h₂⟩

theorem run_findFreeSpaces_ok {alignment : ℕ} {spaces : List FreeSpace}
    (h : Run (findFreeSpaces P profile alignment).run τ (.ok spaces)) :
    ∃ image layout derived occupied free, Search P profile alignment τ image layout derived
        occupied free ∧
      spaces = free.map fun cpu => ⟨cpu, cpu.length, cpu.start - profile.controllerCpuBase⟩ := by
  obtain ⟨_, _, _, rfl, hv, h⟩ := run_fallible_bind_ok_iff.mp h
  obtain ⟨_, image, _, rfl, himage, h⟩ := run_fallible_bind_ok_iff.mp h
  obtain ⟨_, _, _, rfl, hsha, h⟩ := run_fallible_bind_ok_iff.mp h
  obtain ⟨_, layout, _, rfl, hlayout, h⟩ := run_fallible_bind_ok_iff.mp h
  obtain ⟨_, _, _, rfl, -, h⟩ := run_fallible_bind_ok_iff.mp h
  obtain ⟨_, _, _, rfl, hguards, h⟩ := run_fallible_bind_ok_iff.mp h
  obtain ⟨_, derived, _, rfl, hderived, h⟩ := run_fallible_bind_ok_iff.mp h
  obtain ⟨_, _, _, rfl, -, h⟩ := run_fallible_bind_ok_iff.mp h
  obtain ⟨_, _, _, rfl, hwindows, h⟩ := run_fallible_bind_ok_iff.mp h
  obtain ⟨_, _, _, rfl, -, h⟩ := run_fallible_bind_ok_iff.mp h
  obtain ⟨_, guarded, _, rfl, hguarded, h⟩ := run_fallible_bind_ok_iff.mp h
  obtain ⟨_, buffers, _, rfl, hbuffers, h⟩ := run_fallible_bind_ok_iff.mp h
  obtain ⟨_, free, _, rfl, hfree, h⟩ := run_fallible_bind_ok_iff.mp h
  obtain ⟨rfl, hs⟩ := run_fallible_pure_iff.mp h
  have hvalid := (run_result_iff.mp hv).2.symm
  obtain ⟨e, rfl, -, hreads⟩ := run_read_ok (validate_ok hvalid).1 himage
  refine ⟨image, layout, derived, derived.occupied ++ profile.occupied ++ guarded ++
    layout.overlayRanges ++ buffers, free, ?_, Except.ok.inj hs⟩
  exact {
    valid := hvalid
    live := ⟨e, by simp, hreads⟩
    hash := (run_ensure_ok_iff.mp hsha).2
    inspected := (run_result_iff.mp hlayout).2.symm
    profiled := (run_result_iff.mp hderived).2.symm
    windows := (run_ensure_ok_iff.mp hwindows).2
    guards := (run_checkGuards_ok hguards).2
    reserved := fun o ho => by simp only [List.mem_append] at ho ⊢; tauto
    guarded := fun g hg => by
      obtain ⟨r, hr, hgr⟩ := mapM_eq_ok (run_result_iff.mp hguarded).2.symm g hg
      rw [guardRange_ok hgr] at hr
      simp [hr]
    buffers := fun entry he r hr => by
      simp [filterMapM_eq_ok (run_result_iff.mp hbuffers).2.symm entry he r hr]
    found := (run_result_iff.mp hfree).2.symm }

theorem run_findFreeSpace_ok {size alignment : ℕ} {space : FreeSpace}
    (h : Run (findFreeSpace P profile size alignment).run τ (.ok space)) :
    (0 < size ∧ size ≤ maxPayload) ∧ ∃ image layout derived occupied free,
      Search P profile alignment τ image layout derived occupied free ∧ ∃ r ∈ free,
        size ≤ r.length ∧ space.cpu = .sized r.start size ∧
          space.controllerOffset = r.start - profile.controllerCpuBase := by
  obtain ⟨_, _, _, rfl, hsize, h⟩ := run_fallible_bind_ok_iff.mp h
  obtain ⟨τ', spaces, _, rfl, hspaces, h⟩ := run_fallible_bind_ok_iff.mp h
  obtain ⟨_, region, _, rfl, hregion, h⟩ := run_fallible_bind_ok_iff.mp h
  obtain ⟨_, cpu, _, rfl, hcpu, h⟩ := run_fallible_bind_ok_iff.mp h
  obtain ⟨rfl, hs⟩ := run_fallible_pure_iff.mp h
  obtain rfl := Except.ok.inj hs
  obtain ⟨image, layout, derived, occupied, free, hsearch, rfl⟩ := run_findFreeSpaces_ok hspaces
  have hfind := okOr_eq_ok_iff.mp (run_result_iff.mp hregion).2.symm
  obtain ⟨r, hr, rfl⟩ := List.mem_map.mp (List.mem_of_find?_eq_some hfind)
  refine ⟨(run_ensure_ok_iff.mp hsize).2, image, layout, derived, occupied, free, ?_, r, hr,
    by simpa using List.find?_some hfind, P.rangeNew_eq (run_result_iff.mp hcpu).2.symm, rfl⟩
  obtain ⟨e, he, hreads⟩ := hsearch.live
  exact { hsearch with live := ⟨e, by simp [he], hreads⟩ }

theorem hookSite_ok {image : List UInt8} {base : ℕ} {site : OpcodeSite}
    (h : hookSite P image base = .ok site) : P.readBufferSite image base = .ok site := by
  obtain ⟨_, hread, h⟩ := except_bind_eq_ok_iff.mp h
  obtain ⟨_, -, h⟩ := except_bind_eq_ok_iff.mp h
  obtain rfl := Except.ok.inj h
  exact hread

theorem discoverProfile_ok {image : List UInt8} {derived : Profile}
    (h : discoverProfile P image = .ok derived) : derived.normalLength = image.length ∧
      ∃ base site, hookSite P image base = .ok site ∧
        derived.pointerAddress = site.objectAddress := by
  obtain ⟨layout, -, h⟩ := except_bind_eq_ok_iff.mp h
  obtain ⟨_, -, h⟩ := except_bind_eq_ok_iff.mp h
  obtain ⟨base, -, h⟩ := except_bind_eq_ok_iff.mp h
  obtain ⟨site, hsite, h⟩ := except_bind_eq_ok_iff.mp h
  obtain ⟨write, -, h⟩ := except_bind_eq_ok_iff.mp h
  obtain ⟨last, -, h⟩ := except_bind_eq_ok_iff.mp h
  obtain ⟨globals, -, h⟩ := except_bind_eq_ok_iff.mp h
  obtain ⟨n, hn, h⟩ := except_bind_eq_ok_iff.mp h
  obtain rfl := Except.ok.inj h
  exact ⟨(u32TryFrom_eq_ok.mp hn).2, base, site, hsite, rfl⟩

theorem discoverProfile_base {image : List UInt8} {derived : Profile}
    (h : discoverProfile P image = .ok derived) : derived.controllerCpuBase = 0xa00000 := by
  simp only [discoverProfile, except_bind_eq_ok_iff] at h
  obtain ⟨_, -, _, -, _, -, _, -, _, -, _, -, _, -, _, -, h⟩ := h
  obtain rfl := Except.ok.inj h
  rfl

/-- The planned profile extends the image's profile and reserves every address the hook uses. -/
theorem planProfile_ok {image : List UInt8} {sites : Sites}
    (h : planProfile P image sites = .ok profile) :
    (∃ derived, discoverProfile P image = .ok derived ∧
      profile.guards = derived.guards ++ [sites.acquisition, sites.reset] ∧
      profile.normalLength = derived.normalLength ∧
      profile.pointerAddress = derived.pointerAddress) ∧
    ∀ slot ∈ [(sites.vid.slot, 4), (sites.securitySlot, 4), (sites.acquisition.cpuAddress, 4),
      (sites.reset.cpuAddress, 4), (sites.loaded, 1), (sites.checked, 1), (sites.result, 1),
      (sites.readEngineState, 1), (sites.buffers.1, 16), (sites.buffers.2, 16)],
      Range.sized slot.1 slot.2 ∈ profile.occupied := by
  obtain ⟨derived, hderived, h⟩ := except_bind_eq_ok_iff.mp h
  obtain ⟨reserved, hr, h⟩ := except_bind_eq_ok_iff.mp h
  obtain rfl := Except.ok.inj h
  refine ⟨⟨derived, hderived, rfl, rfl, rfl⟩, fun slot hslot => ?_⟩
  obtain ⟨r, hmem, hnew⟩ := mapM_eq_ok hr slot hslot
  exact List.mem_append_right _ (P.rangeNew_eq hnew ▸ hmem)

/-! ## Placing the payload -/

/-- What preparation makes of a trampoline: every address filled in, then both callback tables
copied in. -/
def place (space : FreeSpace) (trampoline : Trampoline) (table vidTable : List UInt8) :
    Except Fault (List UInt8) := do
  let payload ← trampoline.relocations.foldlM (relocate space) trampoline.bytes
  let payload ← copyInto payload trampoline.tableOffset table
  copyInto payload trampoline.vidTableOffset vidTable

theorem length_place {space : FreeSpace} {trampoline : Trampoline}
    {table vidTable payload : List UInt8}
    (h : place space trampoline table vidTable = .ok payload) :
    payload.length = trampoline.bytes.length := by
  obtain ⟨relocated, hrel, h⟩ := except_bind_eq_ok_iff.mp h
  obtain ⟨tabled, htab, h⟩ := except_bind_eq_ok_iff.mp h
  have := foldlM_invariant (fun b => b.length = trampoline.bytes.length)
    (fun _ _ _ hb hs => (length_relocate hs).trans hb) rfl hrel
  rw [length_copyInto h, length_copyInto htab, this]

theorem length_hookedTable {table out : List UInt8} {main : ℕ}
    (h : hookedTable table main = .ok out) : out.length = table.length := by
  obtain ⟨_, -, h⟩ := except_bind_eq_ok_iff.mp h
  exact length_copyInto h

structure Derived (P : Pioneer) (τ : List (Event Scsi)) (p : Prepared) (image : List UInt8)
    (trampoline : Trampoline) (space : FreeSpace) (table vidTable : List UInt8) : Prop where
  built : P.build image = .ok (trampoline, p.sites)
  planned : planProfile P image p.sites = .ok p.profile
  searched : ∃ τ', τ' ⊆ τ ∧ Run (findFreeSpace P p.profile (trampoline.bytes.length % 2 ^ 32)
    trampoline.alignment).run τ' (.ok space)
  allocation : p.allocation = space.cpu
  length_table : table.length = 40
  length_vidTable : vidTable.length = 40
  placed : place space trampoline table vidTable = .ok p.payload
  original : p.original.length = p.payload.length % 2 ^ 32
  pointer : Readable P p.profile p.profile.pointerAddress 4
  writePointer : Readable P p.profile p.profile.writePointerAddress 4
  vid : Readable P p.profile p.sites.vid.slot 4
  security : Readable P p.profile p.sites.securitySlot 4
  resident : Readable P p.profile p.allocation.start p.original.length
  installed : p.installedPointer.length = 4
  vidInstalled : p.vidInstalledPointer.length = 4

theorem run_prepare_derived {existing : Bool} {p : Prepared}
    (h : Run (prepare P existing).run τ (.ok p)) :
    ∃ image trampoline space table vidTable,
      Derived P τ p image trampoline space table vidTable := by
  obtain ⟨_, _, _, rfl, -, h⟩ := run_fallible_bind_ok_iff.mp h
  obtain ⟨_, image, _, rfl, -, h⟩ := run_fallible_bind_ok_iff.mp h
  obtain ⟨_, ⟨trampoline, sites⟩, _, rfl, hbuild, h⟩ := run_fallible_bind_ok_iff.mp h
  obtain ⟨_, profile, _, rfl, hprofile, h⟩ := run_fallible_bind_ok_iff.mp h
  obtain ⟨τ', space, _, rfl, hspace, h⟩ := run_fallible_bind_ok_iff.mp h
  obtain ⟨_, _, _, rfl, hptr, h⟩ := run_fallible_bind_ok_iff.mp h
  obtain ⟨_, _, _, rfl, hwptr, h⟩ := run_fallible_bind_ok_iff.mp h
  obtain ⟨_, _, _, rfl, hvid, h⟩ := run_fallible_bind_ok_iff.mp h
  obtain ⟨_, oem, _, rfl, hoem, h⟩ := run_fallible_bind_ok_iff.mp h
  obtain ⟨_, table, _, rfl, htable, h⟩ := run_fallible_bind_ok_iff.mp h
  obtain ⟨_, relocated, _, rfl, hrel, h⟩ := run_fallible_bind_ok_iff.mp h
  obtain ⟨_, tabled, _, rfl, htab, h⟩ := run_fallible_bind_ok_iff.mp h
  obtain ⟨_, oemVid, _, rfl, hoemVid, h⟩ := run_fallible_bind_ok_iff.mp h
  obtain ⟨_, vidTable, _, rfl, hvidTable, h⟩ := run_fallible_bind_ok_iff.mp h
  obtain ⟨_, payload, _, rfl, hpay, h⟩ := run_fallible_bind_ok_iff.mp h
  obtain ⟨_, original, _, rfl, horig, h⟩ := run_fallible_bind_ok_iff.mp h
  obtain ⟨_, _, _, rfl, -, h⟩ := run_fallible_bind_ok_iff.mp h
  obtain ⟨_, _, _, rfl, -, h⟩ := run_fallible_bind_ok_iff.mp h
  obtain ⟨_, security, _, rfl, hsecurity, h⟩ := run_fallible_bind_ok_iff.mp h
  obtain ⟨_, _, _, rfl, -, h⟩ := run_fallible_bind_ok_iff.mp h
  obtain ⟨rfl, hp⟩ := run_fallible_pure_iff.mp h
  obtain rfl := Except.ok.inj hp
  have hbase : profile.controllerCpuBase = 0xa00000 := by
    obtain ⟨-, _, _, _, _, _, hsearch, -⟩ := run_findFreeSpace_ok hspace
    exact (validate_ok hsearch.valid).1
  obtain ⟨_, rfl, horiglen, -⟩ := run_read_ok hbase horig
  refine ⟨image, trampoline, space, table, vidTable, ?_⟩
  exact {
    built := (run_result_iff.mp hbuild).2.symm
    planned := (run_result_iff.mp hprofile).2.symm
    searched := ⟨τ', fun e he => by simp [he], hspace⟩
    allocation := rfl
    length_table := by
      obtain ⟨_, -, hlen, -⟩ := run_read_ok hbase hoem
      rw [length_hookedTable (run_result_iff.mp htable).2.symm, hlen]
    length_vidTable := by
      obtain ⟨_, -, hlen, -⟩ := run_read_ok hbase hoemVid
      rw [length_hookedTable (run_result_iff.mp hvidTable).2.symm, hlen]
    placed := except_bind_eq_ok_iff.mpr ⟨_, (run_result_iff.mp hrel).2.symm,
      except_bind_eq_ok_iff.mpr ⟨_, (run_result_iff.mp htab).2.symm,
        (run_result_iff.mp hpay).2.symm⟩⟩
    original := horiglen
    pointer := readable_of_run_expect hptr
    writePointer := readable_of_run_expect hwptr
    vid := readable_of_run_expect hvid
    security := readable_of_run hsecurity
    resident := horiglen ▸ readable_of_run horig
    installed := rfl
    vidInstalled := rfl }

/-- Every plan that preparation accepts is placed. -/
theorem run_prepare_placed {existing : Bool} {p : Prepared}
    (h : Run (prepare P existing).run τ (.ok p)) : p.Placed := by
  obtain ⟨image, trampoline, space, table, vidTable, hd⟩ := run_prepare_derived h
  obtain ⟨_, -, hspace⟩ := hd.searched
  obtain ⟨⟨hpos, hle⟩, _, _, _, occupied, free, hsearch, r, hr, hfit, hcpu, -⟩ :=
    run_findFreeSpace_ok hspace
  obtain ⟨hbase, hptr, hwptr, -, hwindows⟩ := validate_ok hsearch.valid
  have hlen : p.original.length = trampoline.bytes.length % 2 ^ 32 := by
    rw [hd.original, length_place hd.placed]
  have hcut : r.Contains p.allocation := by
    rw [hd.allocation, hcpu]
    simp only [Range.Contains, Range.length, Range.start_sized, Range.stop_sized] at *
    omega
  have hapart {o : Range} (ho : o ∈ occupied) : p.allocation.Disjoint o :=
    (P.freeRanges_disjoint hsearch.found r hr o ho).mono hcut
  have hslot (a : ℕ) (ha : Range.sized a 4 ∈ p.profile.occupied) :
      p.allocation.Disjoint (.sized a 4) :=
    hapart (hsearch.reserved _ (List.mem_append_left _ (List.mem_append_right _ ha)))
  have hslots := (planProfile_ok hd.planned).2
  obtain ⟨w, hw, hcontains⟩ := P.freeRanges_window hsearch.found r hr
  exact {
    base := hbase
    pointer_le := hptr
    writePointer_le := hwptr
    window := ((hwindows w hw).trans hcontains).trans hcut
    sized := by rw [hlen, hd.allocation, hcpu]; rfl
    positive := hlen ▸ hpos
    bounded := hlen ▸ hle
    payload := hd.original.symm
    vid := hslot _ (hslots (p.sites.vid.slot, 4) (by simp))
    security := hslot _ (hslots (p.sites.securitySlot, 4) (by simp))
    guards := fun g hg => hapart (hsearch.guarded g (by simp [hg]))
    installed := hd.installed
    vidInstalled := hd.vidInstalled }

end FreemkvUnlock.Renesas
