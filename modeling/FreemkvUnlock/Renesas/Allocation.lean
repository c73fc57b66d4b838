import FreemkvUnlock.Renesas.Payload

/-! # The chosen allocation

The hook is written over memory that nothing uses. The allocation of a plan is as long as its
payload, aligned, in one of the image's windows, and apart from every address that the firmware
or the hook itself relies on.
-/

namespace FreemkvUnlock.Renesas

open Bytes Interaction Fallible

variable {P : Pioneer} {H : H8} {S : Survey} {existing : Bool} {τ : List (Event Scsi)}
  {p : Prepared}

/-- An allocation that meets nothing live; `layout` and `derived` are read off the live image. -/
structure Apart (P : Pioneer) (p : Prepared) (layout : Layout P.Entry) (derived : Profile) :
    Prop where
  aligned : 32 ∣ p.allocation.start
  sized : p.allocation.length = p.payload.length
  inRam : Range.Contains ⟨0xa00000, 0xe00000⟩ p.allocation
  window : ∃ w ∈ p.profile.reservedWindows, w.Contains p.allocation ∧
    ∃ d ∈ derived.reservedWindows, d.Contains w
  pointer : p.allocation.Disjoint p.pointerSlot
  writePointer : p.allocation.Disjoint p.writePointerSlot
  vid : p.allocation.Disjoint p.vidSlot
  security : p.allocation.Disjoint p.securitySlot
  guards : ∀ g ∈ p.profile.guards ++ derived.guards, p.allocation.Disjoint g.range
  sites : p.sites.acquisition ∈ p.profile.guards ∧ p.sites.reset ∈ p.profile.guards
  acquisition : p.allocation.Disjoint (.sized p.sites.acquisition.cpuAddress 4)
  reset : p.allocation.Disjoint (.sized p.sites.reset.cpuAddress 4)
  loaded : p.allocation.Disjoint (.sized p.sites.loaded 1)
  checked : p.allocation.Disjoint (.sized p.sites.checked 1)
  result : p.allocation.Disjoint (.sized p.sites.result 1)
  readEngine : p.allocation.Disjoint (.sized p.sites.readEngineState 1)
  buffers : p.allocation.Disjoint (.sized p.sites.buffers.1 16) ∧
    p.allocation.Disjoint (.sized p.sites.buffers.2 16)
  occupied : ∀ o ∈ derived.occupied ++ p.profile.occupied, p.allocation.Disjoint o
  overlays : ∀ o ∈ layout.overlayRanges, p.allocation.Disjoint o
  bufferTables : ∀ entry ∈ layout.bufferTables.flatten, ∀ r,
    P.entryRange entry p.profile.controllerCpuBase 0x400000 = .ok (some r) →
      p.allocation.Disjoint r

/-- An assembled payload is far shorter than a 32-bit length. -/
theorem Derived.payload_lt {image : List UInt8} {t : Trampoline} {space : FreeSpace}
    {table vidTable : List UInt8}
    (hd : Derived (P.assembling H S) τ p image t space table vidTable) :
    p.payload.length < 2 ^ 23 := by
  obtain ⟨base, main, helper, invalid, securityTable, -, hle, ht⟩ := build_ok hd.built
  obtain ⟨q, hq, htable, -, rfl⟩ := assemble_ok ht
  obtain ⟨⟨derived, hderived, -, hnormal, -⟩, -⟩ := planProfile_ok hd.planned
  obtain ⟨_, -, hspace⟩ := hd.searched
  obtain ⟨-, _, _, _, _, _, hsearch, -⟩ := run_findFreeSpace_ok hspace
  have himage := (validate_ok hsearch.valid).2.2.2.1
  rw [hnormal, (discoverProfile_ok hderived).1] at himage
  have hstart := hq.start_le .policy
  have hlen : p.payload.length = q.start .policy + q.securityTable.length :=
    (length_place hd.placed).trans q.starts.2.2.2.2.2.2.2.2.2.2
  rw [htable] at hlen
  omega

/-- Where a codec's free ranges are aligned, every plan that preparation accepts has an
allocation that meets nothing live. -/
theorem run_prepare_apart
    (haligned : ∀ windows occupied alignment rs,
      P.freeRanges windows occupied alignment = .ok rs → ∀ r ∈ rs, alignment ∣ r.start)
    (h : Run (prepare (P.assembling H S) existing).run τ (.ok p)) :
    ∃ e ∈ τ, ∃ image layout derived, Reads e p.profile.normalAddress image ∧
      P.sha256 image = p.profile.normalSha256 ∧ P.inspect image = .ok layout ∧
      discoverProfile P image = .ok derived ∧ Apart P p layout derived := by
  have hp := run_prepare_placed h
  obtain ⟨image, t, space, table, vidTable, hd⟩ := run_prepare_derived h
  obtain ⟨base, main, helper, invalid, securityTable, -, -, ht⟩ := build_ok hd.built
  obtain ⟨q, -, -, -, rfl⟩ := assemble_ok ht
  obtain ⟨τ', hτ, hspace⟩ := hd.searched
  obtain ⟨⟨hpos, -⟩, live, layout, derived, occupied, free, hsearch, r, hr, hfit, hcpu, -⟩ :=
    run_findFreeSpace_ok hspace
  have hlt := hd.payload_lt
  have hlen : p.payload.length = q.trampoline.bytes.length := length_place hd.placed
  rw [Nat.mod_eq_of_lt (by omega), ← hlen] at hpos hfit hcpu
  have hcut : r.Contains p.allocation := by
    rw [hd.allocation, hcpu]
    simp only [Range.Contains, Range.length, Range.start_sized, Range.stop_sized] at *
    omega
  have hapart {o : Range} (ho : o ∈ occupied) : p.allocation.Disjoint o :=
    (P.freeRanges_disjoint hsearch.found r hr o ho).mono hcut
  obtain ⟨⟨_, -, hguards, -⟩, hslots⟩ := planProfile_ok hd.planned
  have hslot (slot : ℕ × ℕ) (hs : Range.sized slot.1 slot.2 ∈ p.profile.occupied) :
      p.allocation.Disjoint (.sized slot.1 slot.2) :=
    hapart (hsearch.reserved _ (List.mem_append_left _ (List.mem_append_right _ hs)))
  obtain ⟨w, hw, hcontains⟩ := P.freeRanges_window hsearch.found r hr
  obtain ⟨e, he, hreads⟩ := hsearch.live
  refine ⟨e, hτ he, live, layout, derived, hreads, hsearch.hash, hsearch.inspected,
    hsearch.profiled, ?_⟩
  exact {
    aligned := by
      rw [hd.allocation, hcpu]
      exact haligned _ _ _ _ hsearch.found r hr
    sized := by rw [hd.allocation, hcpu, Range.length_sized]
    inRam := hp.window
    window := ⟨w, hw, hcontains.trans hcut, hsearch.windows w hw⟩
    pointer := hp.pointer
    writePointer := hp.writePointer
    vid := hp.vid
    security := hp.security
    guards := fun g hg => hapart (hsearch.guarded g hg)
    sites := by simp [hguards]
    acquisition := hslot _ (hslots (_, 4) (by simp))
    reset := hslot _ (hslots (_, 4) (by simp))
    loaded := hslot _ (hslots (_, 1) (by simp))
    checked := hslot _ (hslots (_, 1) (by simp))
    result := hslot _ (hslots (_, 1) (by simp))
    readEngine := hslot _ (hslots (_, 1) (by simp))
    buffers := ⟨hslot _ (hslots (_, 16) (by simp)), hslot _ (hslots (_, 16) (by simp))⟩
    occupied := fun o ho => hapart (hsearch.reserved o (List.mem_append_left _ ho))
    overlays := fun o ho => hapart (hsearch.reserved o (List.mem_append_right _ ho))
    bufferTables := fun entry he r hr => hapart (hsearch.buffers entry he r hr) }

theorem run_prepare_apart_sample :
    ∃ p layout derived, Apart (imagePioneer 0xe20) p layout derived := by
  obtain ⟨τ, p, h⟩ := run_prepare_image
  obtain ⟨e, -, image, layout, derived, -, -, -, -, ha⟩ := run_prepare_apart (by
    intro windows occupied alignment rs hrs r hr
    obtain rfl := Except.ok.inj hrs
    have := (List.mem_filter.mp hr).2
    simp only [decide_eq_true_eq] at this
    exact this.2) h
  exact ⟨p, layout, derived, ha⟩

end FreemkvUnlock.Renesas
