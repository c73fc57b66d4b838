import FreemkvUnlock.Renesas.ActivationHook
import Mathlib.Logic.Relation

/-! # Activations over time

What a run of the activation hook may do to its surroundings, and what follows for a drive whose
firmware goes on between the runs: the guarded pointers stay as the hook expects them, and the
policy slot never points anywhere but to the OEM's table or to the payload's.
-/

namespace FreemkvUnlock.Renesas

open Bytes Listing

/-! ## Long words -/

theorem load_store_long (m : Store 24) (a : Address) (v : BitVec 32) :
    load .long (store .long m a v) a = v := by
  have hread : (store .long m a v).read a 4 = u32ToBeBytes v.toNat :=
    Store.read_write (show 4 ≤ 2 ^ 24 by decide)
  rw [load, Size.bytes, hread, fromBytesBe_u32ToBeBytes, Nat.mod_eq_of_lt v.isLt,
    BitVec.ofNat_toNat, BitVec.setWidth_eq]

theorem store_long_of_notMem {m : Store 24} {a x : Address} {v : BitVec 32} (h : x ∉ cells a 4) :
    store .long m a v x = m x :=
  Store.write_of_notMem h

theorem load_store_long_of_disjoint {m : Store 24} {a b : Address} {v : BitVec 32}
    (h : Disjoint (cells b 4) (cells a 4)) :
    load .long (store .long m a v) b = load .long m b :=
  load_congr fun _ hx => store_long_of_notMem (Set.disjoint_left.mp h hx)

/-! ## The pointers -/

section Slots

variable (sites : Sites) (original reset : ℕ) (parts : Code.Parts)

def slots : Set Address :=
  cells (BitVec.ofNat 24 sites.acquisition.cpuAddress) 4 ∪
    cells (BitVec.ofNat 24 sites.reset.cpuAddress) 4 ∪
    cells (BitVec.ofNat 24 sites.securitySlot) 4

/-- The pointers lie apart from each other and from the buffers, and the policy that is installed
is the one that is accepted as the payload's own. -/
structure Separate : Prop where
  acquisition : Disjoint (cells (BitVec.ofNat 24 sites.acquisition.cpuAddress) 4)
    (cells (BitVec.ofNat 24 sites.reset.cpuAddress) 4)
  slot : Disjoint (cells (BitVec.ofNat 24 sites.securitySlot) 4)
    (cells (BitVec.ofNat 24 sites.acquisition.cpuAddress) 4 ∪
      cells (BitVec.ofNat 24 sites.reset.cpuAddress) 4)
  buffers : ∀ c ∈ Code.bufferCopies sites, Disjoint (slots sites) (cells (BitVec.ofNat 24 c.2) 4)
  policy : parts.ownedPolicy = parts.policy

variable {sites original reset parts} {m m' : Store 24} {oem : Oem} {e b u : Cpu}

theorem Guarded.congr (h : Set.EqOn m' m (slots sites)) :
    Guarded sites original reset parts m' ↔ Guarded sites original reset parts m := by
  have hload {a : Address} (ha : cells a 4 ⊆ slots sites) : load .long m' a = load .long m a :=
    load_congr fun _ hx => h (ha hx)
  rw [Guarded, Guarded, hload (Set.subset_union_left.trans Set.subset_union_left),
    hload (Set.subset_union_right.trans Set.subset_union_left), hload Set.subset_union_right]

theorem Placed.disjoint_slots (hp : Placed sites e) : Disjoint (e.ownStack 36) (slots sites) :=
  (hp.acquisition.union_right hp.reset).union_right hp.slot

theorem eqOn_copyLongs {copies : List (ℕ × ℕ)}
    (h : ∀ c ∈ copies, Disjoint (slots sites) (cells (BitVec.ofNat 24 c.2) 4)) :
    Set.EqOn (copyLongs copies m) m (slots sites) := by
  induction copies generalizing m with
  | nil => exact fun _ _ => rfl
  | cons c copies ih =>
    obtain ⟨hc, hcs⟩ := List.forall_mem_cons.mp h
    exact (ih hcs).trans fun a ha => store_long_of_notMem (Set.disjoint_left.mp hc ha)

theorem load_restored {off : Prop} [Decidable off] {a : Address} (ha : cells a 4 ⊆ slots sites)
    (hd : Disjoint (cells a 4) (cells (BitVec.ofNat 24 sites.acquisition.cpuAddress) 4))
    (h : Set.EqOn m' (switchedSlots sites parts off m) (slots sites)) :
    load .long (store .long m' (BitVec.ofNat 24 sites.acquisition.cpuAddress)
      (BitVec.ofNat 32 original)) a = load .long (switchedSlots sites parts off m) a :=
  (load_store_long_of_disjoint hd).trans (load_congr fun _ hx => h (ha hx))

theorem policy_restored {off : Prop} [Decidable off] (hs : Separate sites parts)
    (h : Set.EqOn m' (switchedSlots sites parts off m) (slots sites)) :
    load .long (store .long m' (BitVec.ofNat 24 sites.acquisition.cpuAddress)
        (BitVec.ofNat 32 original)) (BitVec.ofNat 24 sites.securitySlot) =
      BitVec.ofNat 32 (if off then parts.policy else sites.securityTable) := by
  have hslot := (Set.disjoint_union_right.mp hs.slot).1
  rw [load_restored Set.subset_union_right hslot h, switchedSlots]
  split_ifs
  · rw [load_store_long_of_disjoint hslot, load_store_long]
  · exact load_store_long _ _ _

/-- Once the borrowed callbacks are given back, the pointers are guarded again. -/
theorem guarded_restored {off : Prop} [Decidable off] (hs : Separate sites parts)
    (hg : Guarded sites original reset parts m)
    (h : Set.EqOn m' (switchedSlots sites parts off m) (slots sites)) :
    Guarded sites original reset parts
      (store .long m' (BitVec.ofNat 24 sites.acquisition.cpuAddress)
        (BitVec.ofNat 32 original)) := by
  have hreset := (Set.disjoint_union_right.mp hs.slot).2.symm
  refine ⟨load_store_long _ _ _, ?_, ?_⟩
  · rw [load_restored (Set.subset_union_right.trans Set.subset_union_left) hs.acquisition.symm h,
      switchedSlots, apply_ite (load .long), ite_apply,
      load_store_long_of_disjoint hs.acquisition.symm, load_store_long_of_disjoint hreset,
      load_store_long_of_disjoint hreset, ite_self]
    exact hg.2.1
  · rw [policy_restored hs h, hs.policy]
    split_ifs
    · exact .inr rfl
    · exact .inl rfl

end Slots

/-! ## One activation -/

/-- The state a hook leaves behind. -/
def Exit.cpu : Exit → Option Cpu
  | .returned s | .jumped _ s => some s
  | .fault => none

structure Frame (n : ℕ) (e u : Cpu) : Prop where
  regs : ∀ r, 3 ≤ r → r ≤ 7 → u.er r = e.er r
  calls : u.calls.length ≤ e.calls.length + n

theorem Frame.trans {e b u : Cpu} {n k : ℕ} (h : Frame n e b) (h' : Frame k b u) :
    Frame (n + k) e u where
  regs r h₃ h₇ := (h'.regs r h₃ h₇).trans (h.regs r h₃ h₇)
  calls := by
    have := h.calls
    have := h'.calls
    omega

theorem Frame.mono {e u : Cpu} {n k : ℕ} (h : Frame n e u) (hn : n ≤ k) : Frame k e u :=
  ⟨h.regs, h.calls.trans (Nat.add_le_add_left hn _)⟩

/-- The policy was switched as a state that agrees with the entry on `K` asks, with all guards in
place before and after. -/
structure Switches (sites : Sites) (original reset : ℕ) (parts : Code.Parts) (K : Set Address)
    (e u : Cpu) : Prop where
  before : Guarded sites original reset parts e.mem
  after : Guarded sites original reset parts u.mem
  policy : ∃ b : Cpu, b.er = e.er ∧ Set.EqOn b.mem e.mem K ∧
    load .long u.mem (BitVec.ofNat 24 sites.securitySlot) =
      BitVec.ofNat 32 (if b.asksOff then parts.policy else sites.securityTable)

section Activation

variable {main helper invalid : ℕ} {sites : Sites} {original reset : ℕ} {parts : Code.Parts}
  {oem : Oem} {b e s t u : Cpu} {x : Exit} {K : Set Address}

variable (hoem : oem.Respects 36 K) (hK : Disjoint (e.ownStack 36) K)
include hoem hK

omit hoem in
theorem notMem_ownStack (hb : b.er = e.er) {a : Address} (ha : a ∈ K) : a ∉ b.ownStack 36 := by
  rw [Cpu.ownStack, hb]
  exact Set.disjoint_right.mp hK ha

theorem Refuses.frame (h : Refuses invalid oem b x) (hb : b.er = e.er) :
    ∃ u, x.cpu = some u ∧ Frame 1 b u ∧ Set.EqOn u.mem b.mem K := by
  obtain ⟨t, ht, rfl⟩ := h
  refine ⟨_, rfl, ⟨fun r h₃ h₇ => ?_, ?_⟩, fun a ha => ?_⟩
  · have hr : r ≠ (Reg.byte 8).index := fun hr => absurd (hr ▸ h₃) (by decide)
    rw [Cpu.test_er, Cpu.put_er_of_ne hr]
    exact (hoem.regs invalid t r h₃ h₇).trans (ht.er r h₇)
  · change (t.calls ++ [_]).length ≤ _
    rw [List.length_append, ht.calls]
    exact le_rfl
  · exact (hoem.mem invalid t a (.inr ha)).trans (ht.mem a (notMem_ownStack hK hb ha))

theorem Replies.frame {buffer : ℕ} (h : Replies helper oem buffer b x) (hb : b.er = e.er) :
    ∃ u, x.cpu = some u ∧ Frame 1 b u ∧ Set.EqOn u.mem b.mem K := by
  obtain ⟨t, u, rfl, hcall, hu⟩ := h
  refine ⟨u, rfl, ⟨fun r h₃ h₇ => hu.regs r (by omega) h₇, ?_⟩, fun a ha => ?_⟩
  · rw [hu.calls, List.length_append]
    exact le_rfl
  · have hown := notMem_ownStack hK hb ha
    exact (hu.mem a hown).trans ((hoem.mem helper t a (.inr ha)).trans (hcall.mem a hown))

theorem Delays.frame (h : Delays b t) (hb : b.er = e.er) (target : ℕ) :
    Frame 1 b (b.resumed (t.call oem target)) ∧ Set.EqOn (t.call oem target).mem b.mem K := by
  refine ⟨⟨fun _ _ _ => rfl, ?_⟩, fun a ha => (hoem.mem _ t a (.inr ha)).trans
    (h.mem a (notMem_ownStack hK hb ha))⟩
  change (t.calls ++ [_]).length ≤ _
  rw [List.length_append, h.calls]
  exact le_rfl

theorem Waits.frame {k : ℕ} (h : Waits sites oem e k b) :
    k ≤ 500 ∧ Frame k e b ∧ Set.EqOn b.mem e.mem K := by
  induction h with
  | start => exact ⟨Nat.zero_le _, ⟨fun _ _ _ => rfl, le_rfl⟩, fun _ _ => rfl⟩
  | round hw hk _ hd _ ih =>
    obtain ⟨-, hframe, hmem⟩ := ih
    obtain ⟨hdelay, heq⟩ := hd.frame hoem hK hw.er sites.schedulerDelay
    exact ⟨hk, hframe.trans hdelay, heq.trans hmem⟩

variable (hs : Separate sites parts) (hslots : slots sites ⊆ K)
include hs hslots

theorem Dispatches.settled {d : Cpu} (hd : Dispatches sites parts b d) (hb : b.er = e.er)
    (hg : Guarded sites original reset parts b.mem) :
    Frame 1 b (b.settled sites original (d.call oem sites.dispatcher)) ∧
    Guarded sites original reset parts
      (b.settled sites original (d.call oem sites.dispatcher)).mem ∧
    load .long (b.settled sites original (d.call oem sites.dispatcher)).mem
        (BitVec.ofNat 24 sites.securitySlot) =
      BitVec.ofNat 32 (if b.asksOff then parts.policy else sites.securityTable) := by
  have hmem : Set.EqOn (d.call oem sites.dispatcher).mem
      (switchedSlots sites parts b.asksOff b.mem) (slots sites) := fun a ha => by
    have hown := notMem_ownStack hK hb (hslots ha)
    exact (hoem.mem _ d a (.inr (hslots ha))).trans ((hd.mem a hown).trans
      (eqOn_copyLongs hs.buffers ha))
  refine ⟨⟨fun _ _ _ => rfl, ?_⟩, guarded_restored hs hg hmem, policy_restored hs hmem⟩
  change (d.calls ++ [_]).length ≤ _
  rw [List.length_append, hd.calls]
  exact le_rfl

/-- A transition leaves the pointers alone or switches the policy. -/
theorem Transition.frame (h : Transition helper invalid sites original reset parts oem e x) :
    ∃ u, x.cpu = some u ∧ Frame 502 e u ∧
      (Set.EqOn u.mem e.mem K ∨ Switches sites original reset parts K e u) := by
  have hkept {k n : ℕ} {b : Cpu} (hb : Frame k e b) (hk : k + 1 ≤ n)
      (hmem : Set.EqOn b.mem e.mem K)
      (hx : ∃ u, x.cpu = some u ∧ Frame 1 b u ∧ Set.EqOn u.mem b.mem K) :
      ∃ u, x.cpu = some u ∧ Frame n e u ∧
        (Set.EqOn u.mem e.mem K ∨ Switches sites original reset parts K e u) := by
    obtain ⟨u, hu, hframe, heq⟩ := hx
    exact ⟨u, hu, (hb.trans hframe).mono hk, .inl (heq.trans hmem)⟩
  have hswitched {k : ℕ} {b d : Cpu} (hw : Waits sites oem e k b)
      (hg : Guarded sites original reset parts b.mem) (hd : Dispatches sites parts b d)
      (hx : ∃ u, x.cpu = some u ∧
        Frame 1 (b.settled sites original (d.call oem sites.dispatcher)) u ∧
        Set.EqOn u.mem (b.settled sites original (d.call oem sites.dispatcher)).mem K) :
      ∃ u, x.cpu = some u ∧ Frame 502 e u ∧
        (Set.EqOn u.mem e.mem K ∨ Switches sites original reset parts K e u) := by
    obtain ⟨hk, hframe, hmem⟩ := hw.frame hoem hK
    obtain ⟨hsettled, hguarded, hpolicy⟩ := hd.settled hoem hK hs hslots hw.er hg
    obtain ⟨u, hu, hreturned, heq⟩ := hx
    have hslotsEq : Set.EqOn u.mem (b.settled sites original (d.call oem sites.dispatcher)).mem
      (slots sites) := heq.mono hslots
    refine ⟨u, hu, ((hframe.trans hsettled).trans hreturned).mono (by omega), .inr ⟨?_, ?_, b,
      hw.er, hmem, ?_⟩⟩
    · exact (Guarded.congr (hmem.mono hslots)).mp hg
    · exact (Guarded.congr hslotsEq).mpr hguarded
    · rw [load_congr fun _ ha => hslotsEq (Set.subset_union_right ha)]
      exact hpolicy
  cases h with
  | busy hw _ hx =>
    obtain ⟨hk, hframe, hmem⟩ := hw.frame hoem hK
    exact hkept hframe (by omega) hmem (hx.frame hoem hK hw.er)
  | failed hw hk _ hd _ hx =>
    obtain ⟨-, hframe, hmem⟩ := hw.frame hoem hK
    obtain ⟨hdelay, heq⟩ := hd.frame hoem hK hw.er sites.schedulerDelay
    exact hkept (hframe.trans hdelay) (by omega) (heq.trans hmem) (hx.frame hoem hK hw.er)
  | foreign hw _ _ hx =>
    obtain ⟨hk, hframe, hmem⟩ := hw.frame hoem hK
    exact hkept hframe (by omega) hmem (hx.frame hoem hK hw.er)
  | rejected hw _ hg hd _ hx => exact hswitched hw hg hd (hx.frame hoem hK hw.er)
  | done hw _ hg hd _ hx => exact hswitched hw hg hd (hx.frame hoem hK hw.er)

theorem Answered.frame {r : Request}
    (h : Answered main helper invalid sites original reset parts oem e r x) :
    ∃ u, x.cpu = some u ∧ Frame 502 e u ∧ (Set.EqOn u.mem e.mem K ∨
      r = .transition ∧ Switches sites original reset parts K e u) := by
  have hkept (hx : ∃ u, x.cpu = some u ∧ Frame 1 e u ∧ Set.EqOn u.mem e.mem K) :
      ∃ u, x.cpu = some u ∧ Frame 502 e u ∧ (Set.EqOn u.mem e.mem K ∨
        r = .transition ∧ Switches sites original reset parts K e u) := by
    obtain ⟨u, hu, hframe, heq⟩ := hx
    exact ⟨u, hu, hframe.mono (by decide), .inl heq⟩
  cases r with
  | oem =>
    obtain ⟨t, rfl, ht⟩ := h
    refine ⟨t, rfl, ⟨fun r _ hr => ht.er r hr, ?_⟩, .inl fun a ha => ht.mem a ?_⟩
    · exact ht.calls ▸ Nat.le_add_right _ _
    · exact Set.disjoint_right.mp hK ha
  | invalid => exact hkept (Refuses.frame hoem hK h rfl)
  | identity => exact hkept (Replies.frame hoem hK h rfl)
  | acknowledge => exact hkept (Replies.frame hoem hK h rfl)
  | transition =>
    obtain ⟨u, hu, hframe, heq⟩ := Transition.frame hoem hK hs hslots h
    exact ⟨u, hu, hframe, heq.imp_right fun hx => ⟨rfl, hx⟩⟩

end Activation

/-! ## Any run -/

section Runs

variable {main helper invalid : ℕ} {sites : Sites} {original reset : ℕ} {parts : Code.Parts}
  {oem : Oem} {e : Cpu} {x : Exit} {n : ℕ} {m m' : Store 24}

/-- A run of the hook gives back the callee-saved registers, makes at most 502 calls, and leaves the
guarded pointers alone unless a transition switches the policy slot from one accepted value to
the one the command asks for. -/
theorem activationHook_frame (hp : Placed sites e) (hs : Separate sites parts)
    (hoem : oem.Respects 36 (slots sites ∪ cells (addressOf (e.er 1)) 10))
    (h : run (cpu oem) (Code.activation main helper invalid sites original reset parts) n
      (Code.activation main helper invalid sites original reset parts) e = some x) :
    ∃ u, x.cpu = some u ∧ (∀ r, 3 ≤ r → r ≤ 7 → u.er r = e.er r) ∧
      u.calls.length ≤ e.calls.length + 502 ∧
      (Set.EqOn u.mem e.mem (slots sites) ∨
        request (e.mem.read (addressOf (e.er 1)) 10) = .transition ∧
        Guarded sites original reset parts e.mem ∧ Guarded sites original reset parts u.mem ∧
        load .long u.mem (BitVec.ofNat 24 sites.securitySlot) = BitVec.ofNat 32
          (if e.mem (addressOf (e.er 1) + BitVec.ofNat 24 6) = Protocol.stateOff then parts.policy
            else sites.securityTable)) := by
  have hanswered := Ends.of_run (ends_activation hp (hoem.mono (Set.empty_subset _))) h
  obtain ⟨u, hu, hframe, heq⟩ := Answered.frame hoem
    (hp.disjoint_slots.union_right hp.command) hs Set.subset_union_left hanswered
  refine ⟨u, hu, hframe.regs, hframe.calls, heq.imp (fun heq => heq.mono Set.subset_union_left) ?_⟩
  rintro ⟨hr, hbefore, hafter, b, hb, hmem, hpolicy⟩
  refine ⟨hr, hbefore, hafter, hpolicy.trans ?_⟩
  have hsix : b.asksOff ↔ e.mem (addressOf (e.er 1) + BitVec.ofNat 24 6) = Protocol.stateOff := by
    rw [Cpu.asksOff, hb, hmem (.inr (add_mem_cells (by decide)))]
  rw [if_congr hsix rfl rfl]

/-! ## Any number of activations -/

variable (main helper invalid sites original reset parts oem) in
/-- What may happen to memory: the firmware goes on and leaves the pointers alone, or the hook is
entered and left. -/
inductive MemoryStep (m m' : Store 24) : Prop
  | oem : Set.EqOn m' m (slots sites) → MemoryStep m m'
  | hook {e u : Cpu} {x : Exit} {n : ℕ} : Placed sites e → e.mem = m →
      run (cpu oem) (Code.activation main helper invalid sites original reset parts) n
        (Code.activation main helper invalid sites original reset parts) e = some x →
      x.cpu = some u → u.mem = m' → MemoryStep m m'

theorem MemoryStep.guarded (hs : Separate sites parts) (hoem : oem.Respects 36 (slots sites))
    (h : MemoryStep main helper invalid sites original reset parts oem m m') :
    (Guarded sites original reset parts m' ↔ Guarded sites original reset parts m) ∧
      (Guarded sites original reset parts m ∨ Set.EqOn m' m (slots sites)) := by
  cases h with
  | oem heq => exact ⟨Guarded.congr heq, .inr heq⟩
  | hook hp he hrun hu hm =>
    subst he hm
    obtain ⟨u, hu', -, heq⟩ := Answered.frame hoem hp.disjoint_slots hs le_rfl
      (Ends.of_run (ends_activation hp (hoem.mono (Set.empty_subset _))) hrun)
    obtain rfl := Option.some.inj (hu.symm.trans hu')
    obtain heq | ⟨-, hx⟩ := heq
    · exact ⟨Guarded.congr heq, .inr heq⟩
    · exact ⟨iff_of_true hx.after hx.before, .inl hx.before⟩

/-- Over any number of activations, with anything in between that leaves the pointers alone, the
pointers are guarded at the end if and only if they were at the start, and the hook never
changes pointers that are not guarded. -/
theorem guarded_iff_of_steps (hs : Separate sites parts) (hoem : oem.Respects 36 (slots sites))
    (h : Relation.ReflTransGen
      (MemoryStep main helper invalid sites original reset parts oem) m m') :
    (Guarded sites original reset parts m' ↔ Guarded sites original reset parts m) ∧
      (Guarded sites original reset parts m ∨ Set.EqOn m' m (slots sites)) := by
  induction h with
  | refl => exact ⟨Iff.rfl, .inr fun _ _ => rfl⟩
  | tail _ hstep ih =>
    obtain ⟨hiff, hkept⟩ := ih
    obtain ⟨hiff', hkept'⟩ := hstep.guarded hs hoem
    refine ⟨hiff'.trans hiff, ?_⟩
    obtain hg | heq := hkept
    · exact .inl hg
    · exact (hkept'.imp hiff.mp fun heq' => heq'.trans heq)

end Runs

/-! ## The sample -/

theorem separate_fixture : Separate .fixture sampleParts where
  acquisition := disjoint_cells (by decide) (by decide)
  slot := (disjoint_cells (by decide) (by decide)).union_right
    (disjoint_cells (by decide) (by decide))
  buffers c hc := by
    have hcopies : ∀ c ∈ Code.bufferCopies .fixture, 0x13b6 + 4 ≤ (BitVec.ofNat 24 c.2).toNat ∧
        (BitVec.ofNat 24 c.2).toNat + 4 ≤ 0xa0a966 := by
      decide
    obtain ⟨hslot, hacquisition⟩ := hcopies c hc
    refine ((disjoint_cells ?_ (by decide)).union_right (disjoint_cells ?_ (by decide))).union_right
      (disjoint_cells ?_ ?_).symm |>.symm
    · exact hacquisition
    · exact hacquisition.trans (by decide)
    · exact hslot
    · exact hacquisition.trans (by decide)
  policy := rfl

abbrev sampleCode : Code :=
  Code.activation 0x411000 0x412000 0x413000 .fixture 0x5bf4ac 0x5cf000 sampleParts

abbrev sampleAt (m : Store 24) : Cpu := { sampleOff with mem := m }

theorem placed_sampleAt (m : Store 24) : Placed .fixture (sampleAt m) where
  command := placed_sampleOff.command
  engine := placed_sampleOff.engine
  acquisition := placed_sampleOff.acquisition
  reset := placed_sampleOff.reset
  slot := placed_sampleOff.slot
  copies := placed_sampleOff.copies

theorem run_sampleAt (m : Store 24) : ∃ n x u,
    run (cpu fun _ s => s) sampleCode n sampleCode (sampleAt m) = some x ∧ x.cpu = some u := by
  have hp := placed_sampleAt m
  have hends : Ends (cpu fun _ s => s) sampleCode
      (Answered 0x411000 0x412000 0x413000 .fixture 0x5bf4ac 0x5cf000 sampleParts (fun _ s => s)
        (sampleAt m) (request (m.read (addressOf (sampleOff.er 1)) 10)))
      sampleCode (sampleAt m) :=
    ends_activation hp (Oem.respects_id 36 ∅)
  obtain ⟨n, x, hrun, hx⟩ := hends
  obtain ⟨u, hu, -⟩ := Answered.frame (Oem.respects_id 36 (slots .fixture)) hp.disjoint_slots
    separate_fixture le_rfl hx
  exact ⟨n, x, u, hrun, hu⟩

theorem activationHook_frame_sample : ∃ n x u,
    run (cpu fun _ s => s) sampleCode n sampleCode sampleOff = some x ∧ x.cpu = some u ∧
      u.calls.length ≤ 502 ∧ (Set.EqOn u.mem sampleOff.mem (slots .fixture) ∨
        load .long u.mem (BitVec.ofNat 24 0x13b6) = BitVec.ofNat 32 0xa08100) := by
  obtain ⟨n, x, -, hrun, -⟩ := run_sampleAt sampleOff.mem
  obtain ⟨u, hu, -, hcalls, heq⟩ := activationHook_frame placed_sampleOff separate_fixture
    (Oem.respects_id 36 _) hrun
  refine ⟨n, x, u, hrun, hu, hcalls, heq.imp_right fun h => h.2.2.2.trans ?_⟩
  rw [if_pos (by decide +kernel)]
  rfl

def sampleOn (m : Store 24) : Store 24 :=
  m.write 0x2000 (Protocol.buildSetCdb .encryption Protocol.stateOn)

theorem eqOn_sampleOn (m : Store 24) : Set.EqOn (sampleOn m) m (slots .fixture) := by
  have hd : Disjoint (slots .fixture)
      (cells (0x2000 : Address) (Protocol.buildSetCdb .encryption Protocol.stateOn).length) :=
    ((disjoint_cells (by decide) (by decide)).symm.union_left
      (disjoint_cells (by decide) (by decide)).symm).union_left
      (disjoint_cells (by decide) (by decide))
  exact fun a ha => Store.write_of_notMem (Set.disjoint_left.mp hd ha)

/-- The sample's pointers are guarded before encryption is switched off, so they are guarded after
the firmware took the next command and the hook ran for that one too. -/
theorem guarded_iff_of_steps_sample : ∃ n₁ x₁ u₁ n₂ x₂ u₂,
    run (cpu fun _ s => s) sampleCode n₁ sampleCode sampleOff = some x₁ ∧ x₁.cpu = some u₁ ∧
      run (cpu fun _ s => s) sampleCode n₂ sampleCode (sampleAt (sampleOn u₁.mem)) = some x₂ ∧
      x₂.cpu = some u₂ ∧ Guarded .fixture 0x5bf4ac 0x5cf000 sampleParts u₂.mem := by
  obtain ⟨n₁, x₁, u₁, hrun₁, hu₁⟩ := run_sampleAt sampleOff.mem
  obtain ⟨n₂, x₂, u₂, hrun₂, hu₂⟩ := run_sampleAt (sampleOn u₁.mem)
  have hguarded : Guarded .fixture 0x5bf4ac 0x5cf000 sampleParts sampleOff.mem :=
    ⟨by decide +kernel, by decide +kernel, .inl (by decide +kernel)⟩
  have hsteps : Relation.ReflTransGen (MemoryStep 0x411000 0x412000 0x413000 .fixture 0x5bf4ac
      0x5cf000 sampleParts fun _ s => s) sampleOff.mem u₂.mem :=
    ((Relation.ReflTransGen.single (.hook placed_sampleOff rfl hrun₁ hu₁ rfl)).tail
      (.oem (eqOn_sampleOn _))).tail (.hook (placed_sampleAt _) rfl hrun₂ hu₂ rfl)
  exact ⟨n₁, x₁, u₁, n₂, x₂, u₂, hrun₁, hu₁, hrun₂, hu₂,
    (guarded_iff_of_steps separate_fixture (Oem.respects_id 36 _) hsteps).1.mpr hguarded⟩

end FreemkvUnlock.Renesas
