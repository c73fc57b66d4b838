import Mathlib.Data.Set.Insert
import FreemkvUnlock.Renesas.Drive

/-! # Order of the writes

The payload is verified before anything points to it, and it is erased only after both object
pointers, the write path, the guards and the policy slot were read at their originals.
-/

namespace FreemkvUnlock.Renesas

open Bytes Interaction Fallible

variable {P : Pioneer} {p : Prepared} {profile : Profile} {cpu n : ℕ} {bytes : List UInt8}

/-! ## Rules for accesses -/

/-- A guarantee about data-outs only: the address is known, and the history, the address and the
bytes are as `K` says. -/
def OnWrites (K : List (Event Scsi) → ℕ → List UInt8 → Prop) (h : List (Event Scsi))
    (e : Event Scsi) : Prop :=
  ∀ a bs, dataOut? e = some (a, bs) → ∃ b, a = some b ∧ K h b bs

section Rules

variable {K : List (Event Scsi) → ℕ → List UInt8 → Prop} {H : List (Event Scsi) → Prop}

theorem OnWrites.of_none {h : List (Event Scsi)} {e : Event Scsi} (he : dataOut? e = none) :
    OnWrites K h e := fun a bs hd => by simp [he] at hd

theorem onWrites_singleton {h pre post : List (Event Scsi)} {e e' : Event Scsi}
    (hK : OnWrites K h e) (hτ : [e] = pre ++ e' :: post) : OnWrites K (h ++ pre) e' := by
  cases pre with
  | nil =>
    obtain ⟨rfl, -⟩ := List.cons.inj hτ
    simpa using hK
  | cons _ pre => simp at hτ

theorem secures_write {Q : Unit → List (Event Scsi) → Prop}
    (hb : profile.controllerCpuBase = 0xa00000)
    (hK : ∀ h, H h → bytes.length < 2 ^ 32 → K h cpu bytes)
    (hQ : ∀ h e, H h → bytes.length < 2 ^ 32 → Writes e cpu bytes → Q () (h ++ [e])) :
    Secures (OnWrites K) H (write P profile cpu bytes) Q := by
  intro h τ r hH hr
  rcases run_write hb hr with ⟨rfl, e, rfl⟩ | ⟨e, rfl, hw, hl, -⟩
  · exact ⟨fun pre e post hτ => by simp at hτ, nofun⟩
  · constructor
    · intro pre e' post hτ
      refine onWrites_singleton (fun a bs hd => ?_) hτ
      obtain ⟨rfl, rfl⟩ := hw.dataOut hd
      exact ⟨cpu, rfl, hK h hH hl⟩
    · rintro ⟨⟩ -
      exact hQ h e hH hl hw

theorem secures_read {Q : List UInt8 → List (Event Scsi) → Prop}
    (hb : profile.controllerCpuBase = 0xa00000)
    (hQ : ∀ h e bs, H h → Reads e cpu bs → Q bs (h ++ [e])) :
    Secures (OnWrites K) H (read P profile cpu n) Q := by
  intro h τ r hH hr
  rcases run_read hb hr with ⟨rfl, e, rfl⟩ | ⟨e, rfl, hf, hres⟩
  · exact ⟨fun pre e post hτ => by simp at hτ, nofun⟩
  · refine ⟨fun pre e' post hτ => onWrites_singleton (.of_none hf.dataOut?) hτ, fun bs hbs => ?_⟩
    rcases hres with ⟨err, rfl⟩ | ⟨bs', rfl, -, hreads⟩
    · cases hbs
    · obtain rfl := Except.ok.inj hbs
      exact hQ h e _ hH hreads

theorem secures_expect {Q : Unit → List (Event Scsi) → Prop}
    (hb : profile.controllerCpuBase = 0xa00000)
    (hQ : ∀ h e, H h → Reads e cpu bytes → Q () (h ++ [e])) :
    Secures (OnWrites K) H (expect P profile cpu n bytes) Q :=
  .seq (R := fun bs h' => ∃ h e, h' = h ++ [e] ∧ H h ∧ Reads e cpu bs)
    (secures_read hb fun h e bs hH hr => ⟨h, e, rfl, hH, hr⟩) fun bs => by
      refine Secures.ensure.mono (fun _ => id) fun _ h' ⟨hbs, h, e, hh, hH, hr⟩ => ?_
      rw [hh]
      exact hQ h e hH (hbs ▸ hr)

end Rules

/-! ## Staging -/

/-- Redirecting a pointer relies on the payload having been read back from the allocation, with
no write into the allocation since. -/
def PayloadVerified (p : Prepared) (h : List (Event Scsi)) : Prop :=
  p.payload.length = p.allocation.length ∧
    Since (Reads · p.allocation.start p.payload) (Touches · p.allocation) h

theorem PayloadVerified.concat {h : List (Event Scsi)} {e : Event Scsi}
    (hv : PayloadVerified p h) (he : ¬ Touches e p.allocation) : PayloadVerified p (h ++ [e]) :=
  ⟨hv.1, hv.2.concat he⟩

theorem secures_stage (hp : p.Placed) :
    Secures (OnWrites fun h a bs => ¬ (Range.sized a bs.length).Disjoint p.vidSlot ∨
      ¬ (Range.sized a bs.length).Disjoint p.pointerSlot → PayloadVerified p h)
      (fun _ => True) (stage P p) fun _ _ => True := by
  have hread : ∀ h e a bs, PayloadVerified p h → Reads e a bs → PayloadVerified p (h ++ [e]) :=
    fun h e a bs hv hr => hv.concat (not_touches_of_none hr.fetches.dataOut? _)
  have hwrite : ∀ h e a bs, PayloadVerified p h → Writes e a bs →
      (Range.sized a bs.length).Disjoint p.allocation → PayloadVerified p (h ++ [e]) :=
    fun h e a bs hv hw hd => hv.concat fun ht => (Touches.of_writes hw).mp ht hd
  have hvid : (Range.sized p.sites.vid.slot p.vidInstalledPointer.length).Disjoint
      p.allocation := by
    rw [hp.vidInstalled]; exact hp.vid.symm
  -- The payload goes to the allocation, which meets neither slot.
  refine .seq (R := fun _ _ => p.payload.length < 2 ^ 32) (secures_write hp.base ?_ ?_) fun _ => ?_
  · intro h _ hl hmeets
    rw [hp.payload_range hl] at hmeets
    exact (hmeets.elim (· hp.vid) (· hp.pointer)).elim
  · intro h e _ hl _
    exact hl
  -- Reading it back establishes what both pointer writes rely on.
  refine .seq (R := fun _ => PayloadVerified p) (secures_expect hp.base ?_) fun _ => ?_
  · intro h e hl hr
    refine ⟨?_, .now hr⟩
    rw [← hp.payload_range hl, Range.length_sized]
  refine .seq (R := fun _ => PayloadVerified p) (secures_write hp.base ?_ ?_) fun _ => ?_
  · exact fun h hv _ _ => hv
  · exact fun h e hv _ hw => hwrite h e _ _ hv hw hvid
  refine .seq (R := fun _ => PayloadVerified p) (secures_expect hp.base ?_) fun _ => ?_
  · exact fun h e hv hr => hread h e _ _ hv hr
  refine .seq (R := fun _ _ => True) (secures_write hp.base ?_ ?_) fun _ => ?_
  · exact fun h hv _ _ => hv
  · exact fun _ _ _ _ _ => trivial
  exact secures_expect hp.base fun _ _ _ _ => trivial

/-! ## Cleanup -/

/-- The ranges that cleanup must see at their originals before it frees the allocation. -/
def Prepared.originals (p : Prepared) : List (Range × List UInt8) :=
  (p.pointerSlot, u32ToBeBytes p.profile.originalTable) ::
  (p.vidSlot, u32ToBeBytes p.sites.vid.table) ::
  (p.writePointerSlot, u32ToBeBytes p.profile.writeOriginalTable) ::
  (p.securitySlot, u32ToBeBytes p.sites.securityTable) ::
  p.profile.guards.map fun g => (g.range, g.expected)

def Prepared.restored (p : Prepared) : List (Range × List UInt8) :=
  [(p.pointerSlot, u32ToBeBytes p.profile.originalTable),
    (p.vidSlot, u32ToBeBytes p.sites.vid.table),
    (p.securitySlot, u32ToBeBytes p.sites.securityTable)]

/-- Every range in `S` was read with its bytes and not spoilt since. -/
def Shows (W : Event Scsi → Range × List UInt8 → Prop) (S : Set (Range × List UInt8))
    (h : List (Event Scsi)) : Prop :=
  ∀ o ∈ S, Since (Reads · o.1.start o.2) (W · o) h

/-- What spoils an observation: only writes, and not the write of another original. -/
structure Spoils (p : Prepared) (W : Event Scsi → Range × List UInt8 → Prop) : Prop where
  writes : ∀ e o, W e o → dataOut? e ≠ none
  apart : ∀ s ∈ p.restored, ∀ o ∈ p.originals, o ≠ s → ∀ e, Writes e s.1.start s.2 → ¬ W e o

section Cleanup

variable {W : Event Scsi → Range × List UInt8 → Prop}
  {K : List (Event Scsi) → ℕ → List UInt8 → Prop}
  {S : Set (Range × List UInt8)} {s : Range × List UInt8}

theorem Shows.mono {S' : Set (Range × List UInt8)} {h : List (Event Scsi)} (hs : Shows W S h)
    (hS : S' ⊆ S) : Shows W S' h := fun o ho => hs o (hS ho)

theorem Shows.read {h : List (Event Scsi)} {e : Event Scsi} {a : ℕ} {bs : List UInt8}
    (hW : Spoils p W) (hs : Shows W S h) (hr : Reads e a bs) : Shows W S (h ++ [e]) :=
  fun o ho => (hs o ho).concat fun hw => hW.writes e o hw hr.fetches.dataOut?

/-- Checking an original adds it to what was seen. -/
theorem secures_see (hW : Spoils p W) (hb : profile.controllerCpuBase = 0xa00000) :
    Secures (OnWrites K) (Shows W S) (expect P profile s.1.start n s.2)
      fun _ => Shows W (insert s S) :=
  secures_expect hb fun h e hs hr o ho => by
    rcases Set.mem_insert_iff.mp ho with rfl | ho
    · exact .now hr
    · exact hs.read hW hr o ho

/-- Restoring an original and reading it back keeps what was seen before. -/
theorem secures_restore {S : Set (Range × List UInt8)} {rest : Hook Unit}
    {Q : Unit → List (Event Scsi) → Prop} (hW : Spoils p W)
    (hb : profile.controllerCpuBase = 0xa00000) (hs : s ∈ p.restored)
    (hS : S ⊆ {o | o ∈ p.originals}) (hK : ∀ h, K h s.1.start s.2)
    (hrest : Secures (OnWrites K) (Shows W (insert s S)) rest Q) :
    Secures (OnWrites K) (Shows W S) (do
      write P profile s.1.start s.2
      expect P profile s.1.start n s.2
      rest) Q := by
  refine .seq (R := fun _ => Shows W {o ∈ S | o ≠ s}) (secures_write hb ?_ ?_) fun _ => ?_
  · exact fun h _ _ => hK h
  · rintro h e hh - hw o ⟨ho, hne⟩
    exact (hh o ho).concat (hW.apart s hs o (hS ho) hne e hw)
  · refine .seq (R := fun _ => Shows W (insert s S)) ?_ fun _ => hrest
    refine (secures_see hW hb).mono (fun _ => id) fun _ h hh => hh.mono fun o ho => ?_
    rcases Set.mem_insert_iff.mp ho with rfl | ho
    · exact Set.mem_insert _ _
    · by_cases hne : o = s
      · exact .inl hne
      · exact .inr ⟨ho, hne⟩

theorem secures_checkGuards (hW : Spoils p W) (hb : profile.controllerCpuBase = 0xa00000) :
    Secures (OnWrites K) (Shows W S) (checkGuards P profile)
      fun _ => Shows W (S ∪ {o | ∃ g ∈ profile.guards, o = (g.range, g.expected)}) := by
  refine .seq (R := fun _ => Shows W S) (Secures.ensure.mono (fun _ => id) fun _ _ h => h.2)
    fun _ => ?_
  generalize profile.guards = gs
  induction gs generalizing S with
  | nil => exact .ret fun h hs => by simpa using hs
  | cons g gs ih =>
    change Secures _ _ (checkGuard P profile g >>= fun _ => gs.forM (checkGuard P profile)) _
    refine .seq (R := fun _ => Shows W (insert (g.range, g.expected) S)) ?_ fun _ => ?_
    · refine .seq (R := fun _ => Shows W S)
        (Secures.ensure.mono (fun _ => id) fun _ _ h => h.2) fun _ => ?_
      exact secures_see (s := (g.range, g.expected)) hW hb
    · refine ih.mono (fun _ => id) fun _ h hs => hs.mono ?_
      rintro o (ho | ⟨g', hg', rfl⟩)
      · exact .inl (.inr ho)
      · rcases List.mem_cons.mp hg' with rfl | hg'
        · exact .inl (.inl rfl)
        · exact .inr ⟨g', hg', rfl⟩

def Freed (p : Prepared) (W : Event Scsi → Range × List UInt8 → Prop) (h : List (Event Scsi))
    (a : ℕ) (bs : List UInt8) : Prop :=
  ¬ (Range.sized a bs.length).Disjoint p.allocation → Shows W {o | o ∈ p.originals} h

def Prepared.detached (p : Prepared) : Set (Range × List UInt8) :=
  {o | o ∈ p.originals ∧ o ≠ (p.securitySlot, u32ToBeBytes p.sites.securityTable)}

theorem secures_restorePolicy (hp : p.Placed) (hW : Spoils p W) :
    Secures (OnWrites (Freed p W)) (Shows W p.detached) (restorePolicy P p)
      fun _ => Shows W {o | o ∈ p.originals} := by
  have hall : {o | o ∈ p.originals} ⊆
      insert (p.securitySlot, u32ToBeBytes p.sites.securityTable) p.detached := by
    intro o ho
    by_cases hne : o = (p.securitySlot, u32ToBeBytes p.sites.securityTable)
    · exact .inl hne
    · exact .inr ⟨ho, hne⟩
  refine .seq (R := fun bs => Shows W (insert (p.securitySlot, bs) p.detached))
    (secures_read hp.base fun h e bs hs hr o ho => ?_) fun bs => ?_
  · rcases Set.mem_insert_iff.mp ho with rfl | ho
    · exact .now hr
    · exact hs.read hW hr o ho
  refine .seq Secures.ensure fun _ => .static fun hc => ?_
  split_ifs with hi
  -- The installed table is replaced by the original one, which is then read.
  · have h : Secures (OnWrites (Freed p W)) (Shows W p.detached) (do
        write P p.profile p.sites.securitySlot (u32ToBeBytes p.sites.securityTable)
        expect P p.profile p.sites.securitySlot 4 (u32ToBeBytes p.sites.securityTable)
        pure ()) fun _ => Shows W {o | o ∈ p.originals} :=
      secures_restore (s := (p.securitySlot, u32ToBeBytes p.sites.securityTable)) hW hp.base
        (by simp [Prepared.restored]) (fun o ho => ho.1)
        (fun h hmeets => (hmeets hp.security.symm).elim) (.ret fun h hs => hs.mono hall)
    simp only [bind_pure_unit] at h
    exact h.mono (fun _ hs => hs.mono (Set.subset_insert _ _)) fun _ _ => id
  -- The original table was read.
  · obtain rfl := hc.resolve_right hi
    exact .ret fun h hs => hs.mono hall

theorem secures_cleanup (hp : p.Placed) (hW : Spoils p W) :
    Secures (OnWrites (Freed p W)) (fun _ => True) (cleanup P p) fun _ _ => True := by
  have start : ∀ h, True → Shows W ∅ h := fun h _ o ho => ho.elim
  refine Secures.mono ?_ start fun _ _ => id
  refine secures_restore (s := (p.pointerSlot, u32ToBeBytes p.profile.originalTable)) hW hp.base
    (by simp [Prepared.restored]) (Set.empty_subset _)
    (fun h hmeets => (hmeets hp.pointer.symm).elim) ?_
  refine secures_restore (s := (p.vidSlot, u32ToBeBytes p.sites.vid.table)) hW hp.base
    (by simp [Prepared.restored]) ?_ (fun h hmeets => (hmeets hp.vid.symm).elim) ?_
  · rintro o (rfl | ho)
    · simp [Prepared.originals]
    · exact ho.elim
  refine .seq (secures_see (s := (p.writePointerSlot, u32ToBeBytes p.profile.writeOriginalTable))
    hW hp.base) fun _ => ?_
  refine .seq (secures_checkGuards hW hp.base) fun _ => ?_
  refine .seq (R := fun _ => Shows W {o | o ∈ p.originals})
    ((secures_restorePolicy hp hW).mono (fun h hs => hs.mono ?_) fun _ _ => id) fun _ => ?_
  · rintro o ⟨ho, hne⟩
    simp only [Prepared.originals, List.mem_cons, List.mem_map] at ho
    rcases ho with rfl | rfl | rfl | rfl | ⟨g, hg, rfl⟩
    · exact .inl (.inr (.inr (.inl rfl)))
    · exact .inl (.inr (.inl rfl))
    · exact .inl (.inl rfl)
    · exact (hne rfl).elim
    · exact .inr ⟨g, hg, rfl⟩
  refine .seq (R := fun _ _ => True) (secures_write hp.base ?_ ?_) fun _ => ?_
  · exact fun h hs _ _ => hs
  · exact fun _ _ _ _ _ => trivial
  exact secures_expect hp.base fun _ _ _ _ => trivial

end Cleanup

/-! ## The ordering theorem -/

/-- The slots cleanup writes meet nothing else it looks at. -/
def Prepared.SlotsApart (p : Prepared) : Prop :=
  ∀ s ∈ p.restored, ∀ o ∈ p.originals, o ≠ s → s.1.Disjoint o.1

/-- Freeing the allocation relies on every original having been read after the last write that
restored it; where the slots do not overlap, after the last write that met it at all. -/
def Detached (p : Prepared) (h : List (Event Scsi)) : Prop :=
  ∀ o ∈ p.originals, Since (Reads · o.1.start o.2) (Writes · o.1.start o.2) h ∧
    (p.SlotsApart → Since (Reads · o.1.start o.2) (Touches · o.1) h)

theorem Prepared.originals_range {o : Range × List UInt8} (ho : o ∈ p.originals) :
    o.1 = .sized o.1.start o.2.length := by
  simp only [Prepared.originals, List.mem_cons, List.mem_map] at ho
  rcases ho with rfl | rfl | rfl | rfl | ⟨g, -, rfl⟩ <;> rfl

theorem Prepared.restored_subset {s : Range × List UInt8} (hs : s ∈ p.restored) :
    s ∈ p.originals := by
  simp only [Prepared.restored, List.mem_cons, List.not_mem_nil, or_false] at hs
  rcases hs with rfl | rfl | rfl <;> simp [Prepared.originals]

theorem spoils_writes (p : Prepared) : Spoils p fun e o => Writes e o.1.start o.2 where
  writes e o h := by simp [show dataOut? e = _ from h]
  apart s hs o ho hne e hw hw' := by
    obtain ⟨ha, hb⟩ := hw.eq hw'
    apply hne
    rw [Prod.ext_iff, Prepared.originals_range ho,
      Prepared.originals_range (Prepared.restored_subset hs), ha, hb]
    exact ⟨rfl, rfl⟩

theorem spoils_touches (hp : p.SlotsApart) : Spoils p fun e o => Touches e o.1 where
  writes e o h hnone := not_touches_of_none hnone _ h
  apart s hs o ho hne e hw ht := by
    rw [Touches.of_writes hw, ← Prepared.originals_range (Prepared.restored_subset hs)] at ht
    exact ht (hp s hs o ho hne)

/-- The payload is never pointed to before it was verified and never erased while a pointer may
still lead to it, in any run of staging or cleanup for a plan that preparation accepted. -/
theorem payload_ordered {existing : Bool} {τ₀ : List (Event Scsi)}
    (h : Run (prepare P existing).run τ₀ (.ok p)) :
    (∀ τ r, Run (stage P p).run τ r → ∀ pre e post, τ = pre ++ e :: post →
      Touches e p.vidSlot ∨ Touches e p.pointerSlot → PayloadVerified p pre) ∧
    (∀ τ r, Run (cleanup P p).run τ r → ∀ pre e post, τ = pre ++ e :: post →
      Touches e p.allocation → Detached p pre) := by
  have hp := run_prepare_placed h
  constructor
  · intro τ r hr pre e post hτ ht
    have hG := (secures_stage hp (h := []) trivial hr).1 pre e post hτ
    rcases ht with ⟨a, bs, hw, hd⟩ | ⟨a, bs, hw, hd⟩
    · obtain ⟨b, rfl, hK⟩ := hG a bs hw
      exact hK (.inl (hd b rfl))
    · obtain ⟨b, rfl, hK⟩ := hG a bs hw
      exact hK (.inr (hd b rfl))
  · rintro τ r hr pre e post hτ ⟨a, bs, hw, hd⟩ o ho
    constructor
    · obtain ⟨b, rfl, hK⟩ := (secures_cleanup hp (spoils_writes p) (h := []) trivial hr).1
        pre e post hτ a bs hw
      exact hK (hd b rfl) o ho
    · intro hs
      obtain ⟨b, rfl, hK⟩ := (secures_cleanup hp (spoils_touches hs) (h := []) trivial hr).1
        pre e post hτ a bs hw
      exact hK (hd b rfl) o ho

theorem payload_ordered_sample : ∃ p : Prepared,
    (∀ τ r, Run (stage samplePioneer p).run τ r → ∀ pre e post, τ = pre ++ e :: post →
      Touches e p.vidSlot ∨ Touches e p.pointerSlot → PayloadVerified p pre) ∧
    (∀ τ r, Run (cleanup samplePioneer p).run τ r → ∀ pre e post, τ = pre ++ e :: post →
      Touches e p.allocation → Detached p pre) := by
  obtain ⟨τ, p, h⟩ := run_prepare_sample
  exact ⟨p, payload_ordered h⟩

end FreemkvUnlock.Renesas
