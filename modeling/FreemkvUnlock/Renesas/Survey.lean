import FreemkvUnlock.Renesas.Image
import FreemkvUnlock.Renesas.Rollback

/-! # What preparation reads

The steps of a preparation and the bytes they rest on. A step that reads only bytes that have not
changed comes to the same result again, and preparation and installation always end.
-/

namespace FreemkvUnlock.Renesas

open Bytes Interaction Fallible Freemkv

/-- Transfers are faithful, and the commands of `τ` are answered as they were there. -/
def answering (τ : List (Event Scsi)) : Contract Scsi Memory where
  allows M e N := transfers.allows M e N ∧ ∀ cdb dir data ms o,
    ⟨.execute cdb dir data ms, o⟩ ∈ τ → e.1 = .execute cdb dir data ms →
      e = ⟨.execute cdb dir data ms, o⟩ ∧ N = M

variable {P : Pioneer} {profile : Profile} {p : Prepared} {M N : Memory}
  {τ σ ω : List (Event Scsi)} {s : Set ℕ} {α : Type}

/-! ## What the first preparation has seen -/

/-- An event that reads: a command, or a data-in of bytes in `s`. -/
def ReadsWithin (s : Set ℕ) (e : Event Scsi) : Prop :=
  (∃ cdb dir data ms o, e = ⟨.execute cdb dir data ms, o⟩) ∨
    ∃ a bytes, Reads e a bytes ∧ ∀ x ∈ Range.sized a bytes.length, x ∈ s

theorem readsWithin_of_observed {os : List (ℕ × List UInt8)} (h : Observed τ os)
    (hs : ∀ o ∈ os, ∀ x ∈ Range.sized o.1 o.2.length, x ∈ s) : ∀ e ∈ τ, ReadsWithin s e := by
  induction h with
  | nil => nofun
  | cons hr _ ih =>
    rw [List.forall_mem_cons] at hs ⊢
    exact ⟨.inr ⟨_, _, hr, hs.1⟩, ih hs.2⟩

theorem readsWithin_read {cpu n : ℕ} {bytes : List UInt8}
    (hb : profile.controllerCpuBase = 0xa00000)
    (h : Run (read P profile cpu n).run τ (.ok bytes)) (hs : ∀ x ∈ Range.sized cpu n, x ∈ s) :
    ∀ e ∈ τ, ReadsWithin s e := by
  obtain ⟨e, rfl, rfl, hr⟩ := run_read_ok hb h
  exact List.forall_mem_singleton.mpr (.inr ⟨cpu, bytes, hr, hs⟩)

def Inquires (e : Event Scsi) : Prop :=
  (∃ cdb dir data ms o, e = ⟨.execute cdb dir data ms, o⟩) ∨
    ∃ selector offset n, e.1 = .diagnosticMemory selector offset (.dataIn n)

theorem inquires_reads : HoldsOfReads Inquires :=
  ⟨fun _ _ _ _ _ => .inl ⟨_, _, _, _, _, rfl⟩, fun _ _ _ _ => .inr ⟨_, _, _, rfl⟩⟩

theorem readsWithin_command : HoldsOfCommands (ReadsWithin s) :=
  fun _ _ _ _ _ => .inl ⟨_, _, _, _, _, rfl⟩

theorem allowed_of_follows (hf : (answering σ).Follows M τ N) (hτ : τ ⊆ σ)
    (hreads : ∀ e ∈ τ, Inquires e) : N = M ∧ ∀ e ∈ τ, (answering σ).allows M e M := by
  induction hf with
  | nil => exact ⟨rfl, nofun⟩
  | @cons M N' _ e _ ha _ ih =>
    rw [List.forall_mem_cons] at hreads
    obtain rfl : N' = M := by
      rcases hreads.1 with ⟨cdb, dir, data, ms, o, rfl⟩ | ⟨selector, offset, n, he⟩
      · exact (ha.2 _ _ _ _ o (hτ List.mem_cons_self) rfl).2
      · obtain ⟨_, r⟩ := e
        obtain rfl := he
        exact ha.1.1
    obtain ⟨rfl, hall⟩ := ih (fun e he => hτ (List.mem_cons_of_mem _ he)) hreads.2
    exact ⟨rfl, List.forall_mem_cons.mpr ⟨ha, hall⟩⟩

/-- A loaded image is the front of what the drive holds at its address. -/
theorem run_loadNormal_ok {image : List UInt8} (hserves : ∀ e ∈ τ, Serves P M e)
    (h : Run (loadNormal P).run τ (.ok image)) :
    image = M.slice 0x410000 image.length ∧ ∀ e ∈ τ, ReadsWithin s e := by
  rcases run_readWhole h with ⟨fault, hfault, -⟩ | ⟨o, r, τ', rfl, ho, hr, hlen, hrest⟩
  · cases hfault
  have hdata := (hserves _ List.mem_cons_self).data le_rfl (by decide) ho hr hlen
  rw [hdata] at hrest
  obtain ⟨_, _, _, -, hmagic, hnamed⟩ := run_fallible_bind_ok_iff.mp hrest
  obtain ⟨_, n, _, -, hlength, hbody⟩ := run_fallible_bind_ok_iff.mp hnamed
  obtain ⟨_, _, _, -, hbound, -⟩ := run_fallible_bind_ok_iff.mp hbody
  have hall := run_loadNormal (run_ensure_ok_iff.mp hmagic).2
    (okOr_eq_ok_iff.mp (run_result_iff.mp hlength).2.symm) (run_ensure_ok_iff.mp hbound).2 hserves h
  obtain ⟨himage, -⟩ := hall.exact image rfl
  refine ⟨by rw [himage, Memory.length_slice], fun e he => .inl ?_⟩
  obtain ⟨c, -, hc⟩ := List.mem_map.mp (hall.asked.subset (List.mem_map_of_mem he))
  obtain ⟨op, answer⟩ := e
  obtain rfl : readOp P c = op := hc
  exact ⟨_, _, _, _, answer, rfl⟩

/-- What the search for a free region reads: the image, the guards of the profile, and those that
are found in the image. -/
theorem observed_findFreeSpace {size alignment : ℕ} {space : FreeSpace}
    (h : Run (findFreeSpace P profile size alignment).run τ (.ok space)) :
    validate P profile = .ok () ∧ ∃ image derived, discoverProfile P image = .ok derived ∧
      image.length = profile.normalLength ∧
      Observed τ ((profile.normalAddress, image) ::
        ((profile.guards ++ derived.guards).map fun g => (g.cpuAddress, g.expected))) := by
  obtain ⟨-, h⟩ := run_ensure_seq_ok_iff.mp h
  obtain ⟨_, spaces, _, rfl, hspaces, h⟩ := run_fallible_bind_ok_iff.mp h
  obtain ⟨region, -, h⟩ := run_result_seq_ok_iff.mp h
  obtain ⟨cpu, -, h⟩ := run_result_seq_ok_iff.mp h
  obtain ⟨rfl, -⟩ := run_fallible_pure_iff.mp h
  obtain ⟨_, hvalid, h⟩ := run_result_seq_ok_iff.mp hspaces
  obtain ⟨_, image, _, rfl, himage, h⟩ := run_fallible_bind_ok_iff.mp h
  obtain ⟨-, h⟩ := run_ensure_seq_ok_iff.mp h
  obtain ⟨layout, -, h⟩ := run_result_seq_ok_iff.mp h
  obtain ⟨-, h⟩ := run_ensure_seq_ok_iff.mp h
  obtain ⟨_, _, _, rfl, hguards, h⟩ := run_fallible_bind_ok_iff.mp h
  obtain ⟨derived, hderived, h⟩ := run_result_seq_ok_iff.mp h
  obtain ⟨-, h⟩ := run_ensure_seq_ok_iff.mp h
  obtain ⟨-, h⟩ := run_ensure_seq_ok_iff.mp h
  obtain ⟨_, _, _, rfl, hagain, h⟩ := run_fallible_bind_ok_iff.mp h
  obtain ⟨guarded, -, h⟩ := run_result_seq_ok_iff.mp h
  obtain ⟨buffers, -, h⟩ := run_result_seq_ok_iff.mp h
  obtain ⟨free, -, h⟩ := run_result_seq_ok_iff.mp h
  obtain ⟨rfl, -⟩ := run_fallible_pure_iff.mp h
  have hb := (validate_ok hvalid).1
  obtain ⟨e, rfl, hlength, hread⟩ := run_read_ok hb himage
  have hfirst : Observed [e] [(profile.normalAddress, image)] := .cons hread .nil
  refine ⟨hvalid, image, derived, hderived, hlength, ?_⟩
  simpa using hfirst.append ((observed_checkGuards hb hguards).append
    (observed_checkGuards (discoverProfile_base hderived) hagain))

/-! ## Seeing the same again -/

/-- Where the memories agree, what was seen once is seen again. -/
theorem forced_of_agree {e : Event Scsi} (hagree : Set.EqOn N M s) (hs : ReadsWithin s e)
    (he : e ∈ σ) (ha : (answering σ).allows M e M) {r : Scsi.Answer e.1} {N' : Memory}
    (hr : (answering σ).allows N ⟨e.1, r⟩ N') : r = e.2 ∧ N' = N := by
  rcases hs with ⟨cdb, dir, data, ms, o, rfl⟩ | ⟨a, bytes, ⟨selector, offset, n, v, rfl, hcpu, rfl⟩,
    hin⟩
  · obtain ⟨hanswer, hmemory⟩ := hr.2 cdb dir data ms o he rfl
    exact ⟨eq_of_heq (Sigma.mk.inj hanswer).2, hmemory⟩
  · obtain ⟨rfl, hdelivers⟩ := hr.1
    obtain ⟨w, rfl, hw⟩ := hdelivers a hcpu
    obtain ⟨v', hv, hv'⟩ := ha.1.2 a hcpu
    obtain rfl := Except.ok.inj hv
    have hslice := Memory.slice_eq_of_eqOn hagree hin
    rw [Vector.length_toList] at hslice
    exact ⟨congrArg _ (Vector.toList_inj.mp (hw.trans (hslice.trans hv'.symm))), rfl⟩

theorem succeeds_again {x : Hook α} {a : α} (hall : ∀ e ∈ σ, (answering σ).allows M e M)
    (hagree : Set.EqOn N M s) (h : Run x.run τ (.ok a)) (hτ : τ ⊆ σ)
    (hs : ∀ e ∈ τ, ReadsWithin s e) :
    (answering σ).Succeeds (· = N) x fun b N' => b = a ∧ N' = N :=
  .of_forced h fun e he _ _ hr => forced_of_agree hagree (hs e he) (hτ he) (hall e (hτ he)) hr

/-! ## A preparation, step by step -/

def Made (σ : List (Event Scsi)) (x : Hook α) (a : α) : Prop :=
  ∃ τ, τ ⊆ σ ∧ Run x.run τ (.ok a)

structure Prepares (P : Pioneer) (σ : List (Event Scsi)) (p : Prepared) (image : List UInt8)
    (t : Trampoline) (space : FreeSpace) (oem table relocated tabled oemVid vidTable : List UInt8) :
    Prop where
  enabled : Made σ (enableDiagnosticReads P) ()
  loaded : Made σ (loadNormal P) image
  built : P.build image = .ok (t, p.sites)
  planned : planProfile P image p.sites = .ok p.profile
  found : Made σ (findFreeSpace P p.profile (t.bytes.length % 2 ^ 32) t.alignment) space
  pointer : Made σ (expect P p.profile p.profile.pointerAddress 4
    (u32ToBeBytes p.profile.originalTable)) ()
  writePointer : Made σ (expect P p.profile p.profile.writePointerAddress 4
    (u32ToBeBytes p.profile.writeOriginalTable)) ()
  vid : Made σ (expect P p.profile p.sites.vid.slot 4 (u32ToBeBytes p.sites.vid.table)) ()
  readTable : Made σ (read P p.profile p.profile.originalTable 40) oem
  hooked : hookedTable oem ((p.allocation.start + t.wrapperOffset) % 2 ^ 32) = .ok table
  relocates : t.relocations.foldlM (relocate space) t.bytes = .ok relocated
  places : copyInto relocated t.tableOffset table = .ok tabled
  readVidTable : Made σ (read P p.profile p.sites.vid.table 40) oemVid
  vidHooked : hookedTable oemVid ((p.allocation.start + t.vidWrapperOffset) % 2 ^ 32) = .ok vidTable
  payload : copyInto tabled t.vidTableOffset vidTable = .ok p.payload
  original : Made σ (read P p.profile p.allocation.start (p.payload.length % 2 ^ 32)) p.original
  security : Made σ (read P p.profile p.sites.securitySlot 4) (u32ToBeBytes p.sites.securityTable)
  allocation : p.allocation = space.cpu
  installed : p.installedPointer = u32ToBeBytes ((p.allocation.start + t.tableOffset) % 2 ^ 32)
  vidInstalled : p.vidInstalledPointer =
    u32ToBeBytes ((p.allocation.start + t.vidTableOffset) % 2 ^ 32)

theorem prepares_of_run (h : Run (prepare P false).run σ (.ok p)) :
    ∃ image t space oem table relocated tabled oemVid vidTable,
      Prepares P σ p image t space oem table relocated tabled oemVid vidTable := by
  obtain ⟨τ₁, _, _, rfl, henabled, h⟩ := run_fallible_bind_ok_iff.mp h
  obtain ⟨τ₂, image, _, rfl, hloaded, h⟩ := run_fallible_bind_ok_iff.mp h
  obtain ⟨⟨t, sites⟩, hbuilt, h⟩ := run_result_seq_ok_iff.mp h
  obtain ⟨profile, hplanned, h⟩ := run_result_seq_ok_iff.mp h
  obtain ⟨τ₃, space, _, rfl, hfound, h⟩ := run_fallible_bind_ok_iff.mp h
  obtain ⟨τ₄, _, _, rfl, hpointer, h⟩ := run_fallible_bind_ok_iff.mp h
  obtain ⟨τ₅, _, _, rfl, hwrite, h⟩ := run_fallible_bind_ok_iff.mp h
  obtain ⟨τ₆, _, _, rfl, hvid, h⟩ := run_fallible_bind_ok_iff.mp h
  obtain ⟨τ₇, oem, _, rfl, hoem, h⟩ := run_fallible_bind_ok_iff.mp h
  obtain ⟨table, htable, h⟩ := run_result_seq_ok_iff.mp h
  obtain ⟨relocated, hrelocated, h⟩ := run_result_seq_ok_iff.mp h
  obtain ⟨tabled, htabled, h⟩ := run_result_seq_ok_iff.mp h
  obtain ⟨τ₈, oemVid, _, rfl, hoemVid, h⟩ := run_fallible_bind_ok_iff.mp h
  obtain ⟨vidTable, hvidTable, h⟩ := run_result_seq_ok_iff.mp h
  obtain ⟨payload, hpayload, h⟩ := run_result_seq_ok_iff.mp h
  obtain ⟨τ₉, original, _, rfl, horiginal, h⟩ := run_fallible_bind_ok_iff.mp h
  obtain ⟨τ₁₀, _, _, rfl, -, h⟩ := run_fallible_bind_ok_iff.mp h
  obtain ⟨-, h⟩ := run_ensure_seq_ok_iff.mp h
  obtain ⟨τ₁₁, security, _, rfl, hsecurity, h⟩ := run_fallible_bind_ok_iff.mp h
  obtain ⟨hpolicy, h⟩ := run_ensure_seq_ok_iff.mp h
  obtain ⟨rfl, hp⟩ := run_fallible_pure_iff.mp h
  obtain rfl := Except.ok.inj hp
  obtain rfl : security = u32ToBeBytes sites.securityTable := by simpa using hpolicy
  refine ⟨image, t, space, oem, table, relocated, tabled, oemVid, vidTable, ?_⟩
  exact {
    enabled := ⟨τ₁, fun e he => by simp [he], henabled⟩
    loaded := ⟨τ₂, fun e he => by simp [he], hloaded⟩
    built := hbuilt
    planned := hplanned
    found := ⟨τ₃, fun e he => by simp [he], hfound⟩
    pointer := ⟨τ₄, fun e he => by simp [he], hpointer⟩
    writePointer := ⟨τ₅, fun e he => by simp [he], hwrite⟩
    vid := ⟨τ₆, fun e he => by simp [he], hvid⟩
    readTable := ⟨τ₇, fun e he => by simp [he], hoem⟩
    hooked := htable
    relocates := hrelocated
    places := htabled
    readVidTable := ⟨τ₈, fun e he => by simp [he], hoemVid⟩
    vidHooked := hvidTable
    payload := hpayload
    original := ⟨τ₉, fun e he => by simp [he], horiginal⟩
    security := ⟨τ₁₁, fun e he => by simp [he], hsecurity⟩
    allocation := rfl
    installed := rfl
    vidInstalled := rfl }

section Unhooked

variable (hb : profile.controllerCpuBase = 0xa00000) (hall : ∀ e ∈ σ, transfers.allows M e M)
include hb hall

theorem slice_of_read {cpu n : ℕ} {bytes : List UInt8}
    (h : Made σ (read P profile cpu n) bytes) : M.slice cpu n = bytes := by
  obtain ⟨τ, hτ, h⟩ := h
  obtain ⟨e, rfl, rfl, hr⟩ := run_read_ok hb h
  exact (allows_of_reads hr (hall e (hτ (List.mem_singleton_self e)))).2

theorem slice_of_expect {cpu n : ℕ} {bytes : List UInt8}
    (h : Made σ (expect P profile cpu n bytes) ()) : M.slice cpu n = bytes := by
  obtain ⟨τ, hτ, h⟩ := h
  obtain ⟨e, rfl, rfl, hr⟩ := run_expect_ok hb h
  exact (allows_of_reads hr (hall e (hτ (List.mem_singleton_self e)))).2

end Unhooked

theorem unhooked_of_prepare (h : Run (prepare P false).run σ (.ok p))
    (hall : ∀ e ∈ σ, transfers.allows M e M) : p.Unhooked M := by
  have hp := run_prepare_placed h
  obtain ⟨image, t, space, oem, table, relocated, tabled, oemVid, vidTable, hd⟩ := prepares_of_run h
  have hallocation := slice_of_read hp.base hall hd.original
  rw [hp.payload] at hallocation
  exact {
    guards := by
      intro g hg
      obtain ⟨τ, hτ, hfound⟩ := hd.found
      obtain ⟨-, image', derived, -, -, hobserved⟩ := observed_findFreeSpace hfound
      have hfollows : transfers.Follows M τ M := .of_forall fun e he => hall e (hτ he)
      exact (follows_of_observed hobserved hfollows).2 (g.cpuAddress, g.expected)
        (List.mem_cons_of_mem _ (List.mem_map_of_mem (List.mem_append_left _ hg)))
    security := slice_of_read hp.base hall hd.security
    pointer := slice_of_expect hp.base hall hd.pointer
    writePointer := slice_of_expect hp.base hall hd.writePointer
    vid := slice_of_expect hp.base hall hd.vid
    allocation := hallocation }

/-! ## Preparing and installing end -/

section Settles

variable {V : Type} {drive : Handler Scsi V}

theorem settles_findFreeSpace {size alignment : ℕ} :
    Settles drive fun _ => (findFreeSpace P profile size alignment).run := by
  refine .seq (.ensure _ _) fun _ => .seq ?_ fun _ => .seq (.result _) fun _ =>
    .seq (.result _) fun _ => .ret _
  refine .seq (.result _) fun _ => .seq settles_read fun _ => .seq (.ensure _ _) fun _ => ?_
  refine .seq (.result _) fun _ => .seq (.ensure _ _) fun _ => ?_
  refine .seq settles_checkGuards fun _ => .seq (.result _) fun _ => ?_
  refine .seq (.ensure _ _) fun _ => .seq (.ensure _ _) fun _ => ?_
  refine .seq settles_checkGuards fun _ => .seq (.result _) fun _ => ?_
  exact .seq (.result _) fun _ => .seq (.result _) fun _ => .ret _

theorem settles_prepare {existing : Bool} : Settles drive fun _ => (prepare P existing).run := by
  refine .seq (.seq settles_genericCdb fun _ => .ensure _ _) fun _ => ?_
  refine .seq settles_loadNormal fun _ => .seq (.result _) fun _ => .seq (.result _) fun _ => ?_
  refine .seq settles_findFreeSpace fun _ => .seq settles_expect fun _ => ?_
  refine .seq settles_expect fun _ => .seq settles_expect fun _ => ?_
  refine .seq settles_read fun _ => .seq (.result _) fun _ => .seq (.result _) fun _ => ?_
  refine .seq (.result _) fun _ => .seq settles_read fun _ => .seq (.result _) fun _ => ?_
  refine .seq (.result _) fun _ => .seq settles_read fun _ => .seq settles_expect fun _ => ?_
  exact .seq (.ensure _ _) fun _ => .seq settles_read fun _ => .seq (.ensure _ _) fun _ => .ret _

theorem settles_checkPrepared {existing : Bool} :
    Settles drive fun _ => (checkPrepared P p existing).run :=
  .seq settles_checkGuards fun _ => .seq settles_read fun _ => .seq (.ensure _ _) fun _ =>
    .seq settles_expect fun _ => .seq settles_expect fun _ => .seq settles_expect fun _ =>
      settles_expect

theorem settles_stage : Settles drive fun _ => (stage P p).run :=
  .seq settles_memory fun _ => .seq settles_expect fun _ => .seq settles_memory fun _ =>
    .seq settles_expect fun _ => .seq settles_memory fun _ => settles_expect

theorem settles_install {installed : Bool} :
    Settles drive fun _ => install P (.planned p installed) installed := by
  refine .bind (.mapErr settles_checkPrepared) fun r => ?_
  cases r with
  | error e => exact .pure _
  | ok u =>
    cases installed with
    | true => exact .pure _
    | false => exact .bind (.mapErr settles_stage) fun r => .pure _

end Settles

end FreemkvUnlock.Renesas
