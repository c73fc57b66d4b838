import FreemkvUnlock.Interaction.Contract
import FreemkvUnlock.Interaction.Termination
import FreemkvUnlock.Renesas.Granted
import FreemkvUnlock.Renesas.Soundness

/-! # Faithful transfers

A drive whose diagnostic transfers are faithful delivers the bytes its memory holds and stores
the bytes it is sent. Accesses that are let through then succeed, and the checks on memory decide
by its contents.
-/

namespace FreemkvUnlock.Renesas

open Bytes Interaction Fallible

/-- Every transfer at a known address completes with exactly its range, and no data-in changes the
memory. -/
def transfers : Contract Scsi Memory where
  allows M e N :=
    match e with
    | ⟨.diagnosticMemory selector offset (.dataIn n), r⟩ => N = M ∧
      ∀ a, cpuAddress selector offset = some a →
        ∃ v : Vector UInt8 n, r = .ok v ∧ v.toList = M.slice a n
    | ⟨.diagnosticMemory selector offset (.dataOut bytes), r⟩ =>
      ∀ a, cpuAddress selector offset = some a → r = .ok () ∧ N = M.overwrite a bytes
    | _ => True

variable {P : Pioneer} {profile : Profile} {p : Prepared} {cpu n : ℕ} {bytes : List UInt8}
  {M N : Memory} {τ : List (Event Scsi)} {Q R : Memory → Prop} {α : Type}

/-! ## What a trace says of the memory -/

theorem allows_of_reads {e : Event Scsi} (h : Reads e cpu bytes) (ha : transfers.allows M e N) :
    N = M ∧ M.slice cpu bytes.length = bytes := by
  obtain ⟨s, o, n, v, rfl, hcpu, rfl⟩ := h
  obtain ⟨rfl, hdelivers⟩ := ha
  obtain ⟨v', hv, hslice⟩ := hdelivers cpu hcpu
  obtain rfl := Except.ok.inj hv
  exact ⟨rfl, by rw [Vector.length_toList, hslice]⟩

/-- No read of a known address fails. -/
theorem not_allows_of_fails {e : Event Scsi} (h : TransferFails e) (hf : Fetches e cpu n) :
    ¬ transfers.allows M e N := by
  obtain ⟨s, o, data, fault, rfl⟩ := h
  obtain ⟨s', o', hop, hcpu⟩ := hf
  cases hop
  rintro ⟨-, hdelivers⟩
  obtain ⟨v, hv, -⟩ := hdelivers cpu hcpu
  cases hv

theorem follows_of_observed {os : List (ℕ × List UInt8)} (h : Observed τ os)
    (hf : transfers.Follows M τ N) : N = M ∧ ∀ o ∈ os, M.slice o.1 o.2.length = o.2 := by
  induction h generalizing M with
  | nil => exact ⟨Contract.follows_nil_iff.mp hf, nofun⟩
  | cons hr _ ih =>
    obtain ⟨_, ha, hrest⟩ := Contract.follows_cons_iff.mp hf
    obtain ⟨rfl, hslice⟩ := allows_of_reads hr ha
    obtain ⟨rfl, hall⟩ := ih hrest
    exact ⟨rfl, List.forall_mem_cons.mpr ⟨hslice, hall⟩⟩

theorem keptBy_memoryDrive (respond : Respond) : transfers.KeptBy (memoryDrive respond) id := by
  intro o M
  cases o with
  | diagnosticMemory selector offset data =>
    cases data with
    | dataIn n =>
      refine ⟨?_, fun a ha => ⟨⟨⟨M.slice a n⟩, by simp⟩, ?_, rfl⟩⟩
      · simp only [memoryDrive]
        split <;> rfl
      · simp only [memoryDrive, ha]
        rfl
    | dataOut bytes =>
      intro a ha
      constructor
      · simp only [memoryDrive, ha]
        rfl
      · simp only [memoryDrive, ha, id]
  | _ => trivial

/-! ## Accesses end -/

section Settles

variable {V : Type} {drive : Handler Scsi V}

theorem settles_memory {cpu : ℕ} {data : MemoryTransfer} :
    Settles drive fun _ => (memory P profile cpu data).run :=
  .seq (.result _) fun _ => .seq (.lift (.ask _)) fun _ => .result _

theorem settles_read {cpu n : ℕ} : Settles drive fun _ => (read P profile cpu n).run :=
  .seq (.ensure _ _) fun _ => .seq settles_memory fun _ => .ret _

theorem settles_expect {cpu n : ℕ} {bytes : List UInt8} :
    Settles drive fun _ => (expect P profile cpu n bytes).run :=
  .seq settles_read fun _ => .ensure _ _

theorem settles_checkGuards : Settles drive fun _ => (checkGuards P profile).run :=
  .seq (.ensure _ _) fun _ => .forM fun _ _ => .seq (.ensure _ _) fun _ => settles_expect

end Settles

/-! ## Accesses succeed -/

section Rules

variable (hb : profile.controllerCpuBase = 0xa00000)
include hb

theorem succeeds_write (hw : Granted P profile cpu bytes)
    (h : ∀ M, Q M → R (M.overwrite cpu bytes)) :
    transfers.Succeeds Q (write P profile cpu bytes) fun _ => R := by
  obtain ⟨target, ht⟩ := hw
  intro M τ r N hM hr hf
  obtain rfl := (run_memory_of_target ht).mp hr
  obtain ⟨_, ha, hf⟩ := Contract.follows_cons_iff.mp hf
  obtain ⟨rfl, rfl⟩ := ha cpu (transferTarget_eq hb ht).1
  obtain rfl := Contract.follows_nil_iff.mp hf
  exact ⟨(), rfl, h M hM⟩

theorem succeeds_read (hr : Readable P profile cpu n) :
    transfers.Succeeds Q (read P profile cpu n) fun bytes M => Q M ∧ bytes = M.slice cpu n := by
  intro M τ r N hM h hf
  obtain ⟨e, rfl, ⟨-, hfails, hfetch⟩ | ⟨bytes, rfl, hreads⟩⟩ := run_read_readable hr hb h
  · obtain ⟨_, ha, -⟩ := Contract.follows_cons_iff.mp hf
    exact (not_allows_of_fails hfails hfetch ha).elim
  · obtain ⟨_, ha, hf⟩ := Contract.follows_cons_iff.mp hf
    obtain rfl := Contract.follows_nil_iff.mp hf
    obtain ⟨rfl, hslice⟩ := allows_of_reads hreads ha
    obtain ⟨_, -, hlength, -⟩ := run_read_ok hb h
    exact ⟨bytes, rfl, hM, by rw [← hlength, hslice]⟩

theorem succeeds_expect (hr : Readable P profile cpu n) (h : ∀ M, Q M → M.slice cpu n = bytes) :
    transfers.Succeeds Q (expect P profile cpu n bytes) fun _ => Q := by
  refine .seq (succeeds_read hb hr) fun bytes' => ?_
  refine (Contract.Succeeds.ensure ?_).post fun _ M hM => hM.1
  rintro M ⟨hM, rfl⟩
  exact h M hM

theorem succeeds_store (hw : Granted P profile cpu bytes) (hr : Readable P profile cpu n)
    (hn : bytes.length = n) (h : ∀ M, Q M → R (M.overwrite cpu bytes)) :
    transfers.Succeeds Q (do
      write P profile cpu bytes
      expect P profile cpu n bytes) fun _ => R := by
  subst hn
  refine .seq (succeeds_write (R := fun N => R N ∧ N.slice cpu bytes.length = bytes) hb hw ?_)
    fun _ => (succeeds_expect hb hr fun N hN => hN.2).post fun _ N hN => hN.1
  exact fun M hM => ⟨h M hM, Memory.slice_overwrite_self⟩

theorem succeeds_store_seq {rest : Hook α} {S : α → Memory → Prop}
    (hw : Granted P profile cpu bytes) (hr : Readable P profile cpu n) (hn : bytes.length = n)
    (h : ∀ M, Q M → R (M.overwrite cpu bytes)) (hrest : transfers.Succeeds R rest S) :
    transfers.Succeeds Q (do
      write P profile cpu bytes
      expect P profile cpu n bytes
      rest) S := by
  rw [← bind_assoc]
  exact .seq (succeeds_store hb hw hr hn h) fun _ => hrest

end Rules

theorem succeeds_checkGuards (hl : Legible P p)
    (h : ∀ M, Q M → ∀ g ∈ p.profile.guards, M.slice g.cpuAddress g.expected.length = g.expected) :
    transfers.Succeeds Q (checkGuards P p.profile) fun _ => Q := by
  refine .seq (.ensure fun _ _ => hl.guards_ne) fun _ => .forM fun g hg => ?_
  obtain ⟨hexpected, hr⟩ := hl.guards g hg
  exact .seq (.ensure fun _ _ => hexpected) fun _ =>
    succeeds_expect hl.base hr fun M hM => h M hM g hg

end FreemkvUnlock.Renesas
