import FreemkvUnlock.Renesas.Assemble
import FreemkvUnlock.Renesas.Steps

/-! # The Volume ID hook

Every run of the hook ends as one of four answers, chosen by the command, the owner of the policy
slot and the status byte: the OEM handler, an invalid-command error, an empty success, or one
transfer of the Volume ID. The registers of the caller, its stack, and the resident reply come
out of every run as they went in.
-/

namespace FreemkvUnlock.Renesas

open Bytes Listing

/-! ## The answers -/

inductive VidAnswer
  | oem
  | invalid
  | empty
  | send (length : ℕ)
  deriving DecidableEq

def allocationLength (command : ℕ → UInt8) : ℕ := fromBytesBe [command 8, command 9]

theorem allocationLength_lt (command : ℕ → UInt8) : allocationLength command < 2 ^ 16 :=
  (fromBytesBe_lt [command 8, command 9]).trans_eq (by norm_num)

/-- The answer to a command, given who owns the policy slot and whether a Volume ID is there. -/
def vidAnswer (command : ℕ → UInt8) (owned ready : Prop) [Decidable owned] [Decidable ready] :
    VidAnswer :=
  if ¬ (command 0 = 0xad ∧ command 1 = 1 ∧ command 7 = 0x80) ∨ ¬ owned then .oem
  else if command 10 &&& 0x3f ≠ 0 then .invalid
  else if command 10 ≠ 0 then .oem
  else if ∃ i ∈ ([2, 3, 4, 5, 6, 11] : List ℕ), command i ≠ 0 then .invalid
  else if allocationLength command = 0 then .empty
  else if ready then .send (min (allocationLength command) 36)
  else .invalid

variable (sites : Sites) (helper invalid data policy : ℕ) (oem : Oem) (e : Cpu)

/-- Where the hook reads and writes: nothing of it lies in the hook's own stack, and the reply
area holds the reply without a Volume ID. -/
structure VidPlaced : Prop where
  command : Disjoint (e.ownStack 16) (cells (addressOf (e.er 1)) 12)
  slot : Disjoint (e.ownStack 16) (cells (BitVec.ofNat 24 sites.securitySlot) 4)
  status : BitVec.ofNat 24 sites.vid.status ∉ e.ownStack 16
  source : Disjoint (e.ownStack 16) (cells (BitVec.ofNat 24 sites.vid.source) 16)
  reply : Disjoint (e.ownStack 16) (cells (BitVec.ofNat 24 data) 36)
  apart : Disjoint (cells (BitVec.ofNat 24 data) 36) (cells (BitVec.ofNat 24 sites.vid.source) 16)
  resident : e.mem.read (BitVec.ofNat 24 data) 36 = [0, 0x22, 0, 0] ++ zeros 32

structure VidCall (n : ℕ) (t : Cpu) : Prop where
  buffer : t.er 2 = BitVec.ofNat 32 data - 0xa00000
  direction : t.get (.byte 9) = 0
  status : t.er 0 = e.er 0
  length : load .long t.mem (addressOf (t.er 7)) = BitVec.ofNat 32 n
  reply : t.mem.read (BitVec.ofNat 24 data) 36 =
    [0, 0x22, 0, 0] ++ e.mem.read (BitVec.ofNat 24 sites.vid.source) 16 ++ zeros 16
  calls : t.calls = e.calls
  mem : ∀ a ∉ e.ownStack 16 ∪ cells (BitVec.ofNat 24 data) 36, t.mem a = e.mem a

structure VidReturned (t u : Cpu) : Prop where
  regs : ∀ r, 2 ≤ r → r ≤ 7 → u.er r = e.er r
  status : u.er 0 = (oem helper t).er 0
  calls : u.calls = e.calls ++ [⟨helper, t.er, t.mem⟩]
  reply : u.mem.read (BitVec.ofNat 24 data) 36 = e.mem.read (BitVec.ofNat 24 data) 36
  mem : ∀ a ∉ e.ownStack 16 ∪ cells (BitVec.ofNat 24 data) 36, u.mem a = (oem helper t).mem a

def VidAnswered : VidAnswer → Exit → Prop
  | .oem, x => ∃ t, x = .jumped sites.vid.main t ∧ AsEntered 16 e t
  | .invalid, x => ∃ t, AsEntered 16 e t ∧
    x = .returned (((t.call oem invalid).put (.byte 8) (byteValue 1)).test (byteValue 1))
  | .empty, x => ∃ t, x = .returned t ∧ AsEntered 16 (e.put (.byte 8) 0) t
  | .send n, x => ∃ t u, x = .returned u ∧ VidCall sites data e n t ∧
    VidReturned helper data oem e t u

abbrev VidEnds (x : VidAnswer) (code : Code) (s : Cpu) : Prop :=
  Ends (cpu oem) (Code.vid sites helper invalid data policy)
    (VidAnswered sites helper invalid data oem e x) code s

/-! ## The ways out -/

abbrev vidEntry : Entry := e.entry 16 (by norm_num)

variable {sites helper invalid data policy oem e} {s : Cpu} {rest : Code}

theorem ends_vidOem (h : Inside (vidEntry e) ((vidEntry e).file [2]) [e.er 2] s) :
    VidEnds sites helper invalid data policy oem e .oem
      (Code.pop 2 :: Code.tail sites.vid.main :: rest) s := by
  refine h.ends_restore (by decide) fun t ht => ?_
  exact .leave rfl ⟨t, rfl, Inside.asEntered ht rfl⟩

theorem ends_vidInvalid (h : Inside (vidEntry e) ((vidEntry e).file [2]) [e.er 2] s) :
    VidEnds sites helper invalid data policy oem e .invalid
      (Code.pop 2 :: Code.call invalid ::
        Code.insn .mov (some .byte) (.immediate 1 8) (.register (.byte 8)) :: Code.rts :: rest)
      s := by
  refine h.ends_restore (by decide) fun t ht => ?_
  exact .op rfl (.op rfl (.leave rfl ⟨t, Inside.asEntered ht rfl, rfl⟩))

theorem ends_vidUnavailable
    (h : Inside (vidEntry e) ((vidEntry e).file [4, 3, 2]) [e.er 4, e.er 3, e.er 2] s) :
    VidEnds sites helper invalid data policy oem e .invalid
      (Code.pop 4 :: Code.pop 3 :: .label .vidInvalid :: Code.pop 2 :: Code.call invalid ::
        Code.insn .mov (some .byte) (.immediate 1 8) (.register (.byte 8)) :: Code.rts :: rest)
      s := by
  refine h.ends_restore (by decide) fun t ht => ?_
  refine Inside.ends_restore ht (by decide) fun t ht => ?_
  exact .label (ends_vidInvalid ht)

theorem ends_vidReturn {E : Entry} {Q : Exit → Prop} {prog : Code}
    (h : Inside E (E.file [4, 3, 2]) [E.cpu.er 4, E.cpu.er 3, E.cpu.er 2] s)
    (hq : ∀ t, (∀ r ≤ 7, t.er r = E.cpu.er r) → t.calls = E.cpu.calls →
      (∀ a ∈ E.kept, t.mem a = E.cpu.mem a) → Q (.returned t)) :
    Ends (cpu oem) prog Q (Code.pop 4 :: Code.pop 3 :: Code.pop 2 :: Code.rts :: rest) s := by
  refine h.ends_restore (by decide) fun t ht => ?_
  refine ht.ends_restore (by decide) fun t ht => ?_
  refine ht.ends_restore (by decide) fun t ht => ?_
  exact .leave rfl (hq t (fun _ hr => Inside.er_eq ht hr) ht.calls ht.mem)

theorem ends_vidEmpty
    (h : Inside (vidEntry e) ((vidEntry e).file [4, 3, 2]) [e.er 4, e.er 3, e.er 2] s) :
    VidEnds sites helper invalid data policy oem e .empty
      (Code.clear .byte (.byte 8) :: .label .vidReturn :: Code.pop 4 :: Code.pop 3 ::
        Code.pop 2 :: Code.rts :: rest) s := by
  have hx : (Reg.byte 8).index ≠ 7 := by decide
  have hs : Inside ((vidEntry e).put hx 0) (((vidEntry e).put hx 0).file [4, 3, 2])
      [e.er 4, e.er 3, e.er 2] (s.put (.byte 8) 0) :=
    h.putEntry hx 0
  refine .op (t := (s.put (.byte 8) 0).compare (s.get (.byte 8)) (s.get (.byte 8))) ?_ (.label ?_)
  · simp [cpu, CodeOp.exec, Insn.exec, Operand.value]
  refine ends_vidReturn (hs.compare _ _) fun t her hcalls hmem =>
    ⟨t, rfl, her, hcalls, fun a ha => hmem a ?_⟩
  rwa [Cpu.ownStack, Cpu.put_er_of_ne hx.symm] at ha

/-! ## The reply -/

def vidKept (data : ℕ) (e : Cpu) : Set Address :=
  (e.ownStack 16 ∪ cells (BitVec.ofNat 24 data) 36)ᶜ

theorem vidKept_subset : vidKept data e ⊆ (e.ownStack 16)ᶜ :=
  Set.compl_subset_compl.mpr Set.subset_union_left

def copied (data source i : ℕ) (m : Store 24) (j : ℕ) : UInt8 :=
  if 4 ≤ j ∧ j < i + 4 then m (BitVec.ofNat 24 source + BitVec.ofNat 24 (j - 4))
  else m (BitVec.ofNat 24 data + BitVec.ofNat 24 j)

/-- While bytes are stored into the reply area: the lines so far left the bytes of `f` there. -/
structure Filling (E : Entry) (file : File) (stack : List (BitVec 32)) (data : ℕ) (f : ℕ → UInt8)
    (s : Cpu) : Prop where
  inside : Inside E file stack s
  bytes : ∀ j < 36, s.mem (BitVec.ofNat 24 data + BitVec.ofNat 24 j) = f j

theorem Filling.ends_storeByte {E : Entry} {file : File} {stack : List (BitVec 32)}
    {f g : ℕ → UInt8} {Q : Exit → Prop} {prog : Code} {b : UInt8} {i : ℕ}
    (h : Filling E file stack data f s)
    (hdata : file 4 = some (BitVec.ofNat 32 data)) (hb : s.get (.byte 10) = byteValue b)
    (hi : i < 36) (hkept : Disjoint (cells (BitVec.ofNat 24 data) 36) E.kept)
    (hown : Disjoint (below (addressOf (E.cpu.er 7)) E.room) (cells (BitVec.ofNat 24 data) 36))
    (hf : ∀ j < 36, g j = if j = i then b else f j)
    (hnext : ∀ t, Filling E file stack data g t → t.er = s.er → Ends (cpu oem) prog Q rest t) :
    Ends (cpu oem) prog Q (Code.storeByte 4 i :: rest) s := by
  have ha : addressOf (BitVec.ofNat 32 data) = BitVec.ofNat 24 data := by
    rw [addressOf, BitVec.setWidth_ofNat_of_le (by decide)]
  have hmem : BitVec.ofNat 24 data + BitVec.ofNat 24 i ∈ cells (BitVec.ofNat 24 data) 36 :=
    add_mem_cells hi
  refine h.inside.ends_storeByte (h.inside.regs 4 _ hdata) hb (by omega)
    (ha ▸ Set.disjoint_left.mp hkept hmem) (ha ▸ Set.disjoint_right.mp hown hmem)
    fun t ht her hm => hnext t ⟨ht, fun j hj => ?_⟩ her
  rw [hm, ha, Store.write_singleton, hf j hj, h.bytes j hj]
  exact if_congr (add_ofNat_inj (by omega) (by omega)) rfl rfl

/-- The stage between the choice of a reply and the transfer: what is saved, the length in ER3 and
the reply area in ER4. -/
def replyFile (E : Entry) (data n : ℕ) : File :=
  Function.update (Function.update (E.file [4, 3, 2]) 3 (some (BitVec.ofNat 32 n))) 4
    (some (BitVec.ofNat 32 data))

theorem ends_vidCopy {E : Entry} {stack : List (BitVec 32)} {Q : Exit → Prop} {prog : Code}
    {source n : ℕ} (h : Inside E (replyFile E data n) stack s)
    (hkept : E.kept = (below (addressOf (E.cpu.er 7)) E.room ∪ cells (BitVec.ofNat 24 data) 36)ᶜ)
    (hown : Disjoint (below (addressOf (E.cpu.er 7)) E.room) (cells (BitVec.ofNat 24 data) 36))
    (hsource : cells (BitVec.ofNat 24 source) 16 ⊆ E.kept)
    (hbytes : ∀ j < 36, s.mem (BitVec.ofNat 24 data + BitVec.ofNat 24 j) =
      E.cpu.mem (BitVec.ofNat 24 data + BitVec.ofNat 24 j))
    (hnext : ∀ t, Filling E (replyFile E data n) stack data (copied data source 16 E.cpu.mem) t →
      Ends (cpu oem) prog Q rest t) :
    Ends (cpu oem) prog Q ((List.range 16).flatMap (Code.vidCopy source) ++ rest) s := by
  refine Ends.steps (I := fun i => Filling E (replyFile E data n) stack data
    (copied data source i E.cpu.mem)) ⟨h, fun j hj => ?_⟩ (fun i hi s rest hs hrest => ?_) hnext
  · rw [hbytes j hj, copied, if_neg (by omega)]
  have ha : BitVec.ofNat 24 ((source + i) % 2 ^ 32) =
      BitVec.ofNat 24 source + BitVec.ofNat 24 i := by
    rw [← BitVec.ofNat_add]
    apply BitVec.eq_of_toNat_eq
    rw [BitVec.toNat_ofNat, BitVec.toNat_ofNat]
    omega
  refine hs.inside.ends_loadByte rfl (ha ▸ hsource (add_mem_cells hi)) fun t ht hb hm => ?_
  rw [ha] at hb
  refine Filling.ends_storeByte (f := copied data source i E.cpu.mem) ⟨ht, fun j hj => ?_⟩ rfl hb
    (by omega) ?_ hown (fun j hj => ?_) fun t ht _ => hrest t ht
  · rw [hm, hs.bytes j hj]
  · rw [hkept]
    exact Set.disjoint_compl_right_iff_subset.mpr Set.subset_union_right
  · rw [copied, copied]
    by_cases hji : j = i + 4
    · rw [if_pos (by omega), if_pos hji, hji, Nat.add_sub_cancel]
    · rw [if_neg hji]
      exact if_congr (by omega) rfl rfl

def wiped (f : ℕ → UInt8) (j : ℕ) : UInt8 := if 4 ≤ j ∧ j < 20 then 0 else f j

theorem ends_vidWipe {E : Entry} {file : File} {stack : List (BitVec 32)} {f : ℕ → UInt8}
    {Q : Exit → Prop} {prog : Code} (h : Filling E file stack data f s)
    (hdata : file 4 = some (BitVec.ofNat 32 data)) (hb : s.get (.byte 10) = byteValue 0)
    (hkept : Disjoint (cells (BitVec.ofNat 24 data) 36) E.kept)
    (hown : Disjoint (below (addressOf (E.cpu.er 7)) E.room) (cells (BitVec.ofNat 24 data) 36))
    (hnext : ∀ t, Filling E file stack data (wiped f) t → Ends (cpu oem) prog Q rest t) :
    Ends (cpu oem) prog Q ((List.range' 4 16).map (Code.storeByte 4) ++ rest) s := by
  let g (i j : ℕ) : UInt8 := if 4 ≤ j ∧ j < i + 4 then 0 else f j
  refine Ends.steps (n := 16) (f := fun i => [Code.storeByte 4 (i + 4)])
    (I := fun i s => Filling E file stack data (g i) s ∧ s.get (.byte 10) = byteValue 0)
    ⟨⟨h.inside, fun j hj => ?_⟩, hb⟩ (fun i hi s rest hs hrest => ?_) fun t ht => hnext t ht.1
  · rw [h.bytes j hj]
    exact (if_neg (by omega)).symm
  · refine hs.1.ends_storeByte hdata hs.2 (by omega) hkept hown (fun j _ => ?_)
      fun t ht her => hrest t ⟨ht, ?_⟩
    · by_cases hji : j = i + 4
      · rw [if_pos hji]
        exact if_pos (by omega)
      · rw [if_neg hji]
        exact if_congr (by omega) rfl rfl
    · rw [Cpu.get, her]
      exact hs.2

theorem read_copied {m m' : Store 24} {a b : Address}
    (hm : m.read a 36 = [0, 0x22, 0, 0] ++ zeros 32)
    (hm' : ∀ j < 36, m' (a + BitVec.ofNat 24 j) =
      if 4 ≤ j ∧ j < 16 + 4 then m (b + BitVec.ofNat 24 (j - 4)) else m (a + BitVec.ofNat 24 j)) :
    m'.read a 36 = [0, 0x22, 0, 0] ++ m.read b 16 ++ zeros 16 := by
  have hsplit (m : Store 24) : m.read a 36 = m.read a 4 ++
      (m.read (a + BitVec.ofNat 24 4) 16 ++
        m.read (a + BitVec.ofNat 24 4 + BitVec.ofNat 24 16) 16) := by
    rw [← Store.read_add, ← Store.read_add]
  have hzeros : zeros 32 = zeros 16 ++ zeros 16 := rfl
  rw [hsplit, hzeros] at hm
  obtain ⟨h₁, h₂⟩ := List.append_inj hm Store.length_read
  obtain ⟨-, h₃⟩ := List.append_inj h₂ Store.length_read
  have e₁ : m'.read a 4 = m.read a 4 := List.map_congr_left fun j hj => by
    have := List.mem_range.mp hj
    rw [hm' j (by omega), if_neg (by omega)]
  have e₂ : m'.read (a + BitVec.ofNat 24 4) 16 = m.read b 16 := List.map_congr_left fun j hj => by
    have := List.mem_range.mp hj
    rw [BitVec.add_assoc, ← BitVec.ofNat_add, hm' (4 + j) (by omega), if_pos (by omega),
      Nat.add_sub_cancel_left]
  have e₃ : m'.read (a + BitVec.ofNat 24 4 + BitVec.ofNat 24 16) 16 =
      m.read (a + BitVec.ofNat 24 4 + BitVec.ofNat 24 16) 16 := List.map_congr_left fun j hj => by
    have := List.mem_range.mp hj
    rw [BitVec.add_assoc, BitVec.add_assoc, ← BitVec.ofNat_add, ← BitVec.ofNat_add,
      hm' (4 + (16 + j)) (by omega), if_neg (by omega)]
  rw [hsplit, e₁, e₂, e₃, h₁, h₃, List.append_assoc]

/-! ## The transfer -/

variable (hp : VidPlaced sites data e)
  (hoem : oem.Respects 16 (cells (BitVec.ofNat 24 data) 36))
include hp

/-- The transfer is started with the reply in place. -/
theorem vidCall_of_inside {E : Entry} {file : File} {stack : List (BitVec 32)} {n : ℕ} {t : Cpu}
    (h : Inside E file (BitVec.ofNat 32 n :: stack) t) (hcalls : E.cpu.calls = e.calls)
    (hbuffer : file 2 = some (BitVec.ofNat 32 data - 0xa00000)) (h₀ : file 0 = some (e.er 0))
    (hdirection : t.get (.byte 9) = 0) (hkept : E.kept = (e.ownStack 16)ᶜ)
    (hreply : ∀ j < 36, E.cpu.mem (BitVec.ofNat 24 data + BitVec.ofNat 24 j) =
      copied data sites.vid.source 16 e.mem j)
    (hrest : ∀ a ∈ vidKept data e, E.cpu.mem a = e.mem a) : VidCall sites data e n t where
  buffer := h.regs 2 _ hbuffer
  direction := hdirection
  status := h.regs 0 _ h₀
  length := h.pop.1
  reply := read_copied hp.resident fun j hj => by
    rw [h.mem _ (hkept ▸ Set.disjoint_right.mp hp.reply (add_mem_cells hj)), hreply j hj, copied]
  calls := h.calls.trans hcalls
  mem a ha := (h.mem a (hkept ▸ vidKept_subset ha)).trans (hrest a ha)

/-- The reply area is as before once the Volume ID is wiped from it. -/
theorem read_wiped {m m' : Store 24}
    (hm : ∀ j < 36, m (BitVec.ofNat 24 data + BitVec.ofNat 24 j) =
      copied data sites.vid.source 16 e.mem j)
    (hm' : ∀ j < 36, m' (BitVec.ofNat 24 data + BitVec.ofNat 24 j) =
      wiped (fun j => m (BitVec.ofNat 24 data + BitVec.ofNat 24 j)) j) :
    m'.read (BitVec.ofNat 24 data) 36 = e.mem.read (BitVec.ofNat 24 data) 36 := by
  refine List.map_congr_left fun j hj => ?_
  have hj := List.mem_range.mp hj
  rw [hm' j hj, wiped]
  split_ifs with hvid
  · have hres := congrArg (·[j]?) hp.resident
    simp only [Store.getElem?_read hj, zeros] at hres
    rw [List.getElem?_append_right hvid.1, List.getElem?_replicate, if_pos (by simp; omega)] at hres
    exact (Option.some.inj hres).symm
  · rw [hm j hj, copied, if_neg hvid]

include hoem

theorem ends_vidSent {E : Entry} {n : ℕ} {t : Cpu} {file : File}
    (h : Inside E file [BitVec.ofNat 32 n, e.er 4, e.er 3, e.er 2] t) (hroom : E.room = 16)
    (her : E.cpu.er = e.er) (hkept : E.kept = (e.ownStack 16)ᶜ)
    (hdata : file 4 = some (BitVec.ofNat 32 data)) (h₅ : file 5 = some (e.er 5))
    (h₆ : file 6 = some (e.er 6)) (hcall : VidCall sites data e n t)
    (ht : ∀ j < 36, t.mem (BitVec.ofNat 24 data + BitVec.ofNat 24 j) =
      copied data sites.vid.source 16 e.mem j) :
    VidEnds sites helper invalid data policy oem e (.send n)
      (Code.adds 4 :: Code.clear .byte (.byte 10) ::
        ((List.range' 4 16).map (Code.storeByte 4) ++ (.branch 0 .vidReturn :: rest)))
      (t.call oem helper) := by
  obtain ⟨rest', hl⟩ : ∃ rest', after .vidReturn (Code.vid sites helper invalid data policy) =
    some (Code.pop 4 :: Code.pop 3 :: Code.pop 2 :: Code.rts :: rest') := ⟨_, rfl⟩
  have hbelow : below (addressOf (E.cpu.er 7)) E.room = e.ownStack 16 := by
    rw [her, hroom, Cpu.ownStack]
  have hreg (r : ℕ) (h₃ : 3 ≤ r) (h₇ : r ≤ 7) : (t.call oem helper).er r = t.er r :=
    hoem.regs helper t r h₃ h₇
  set u := t.call oem helper
  have hmem (a : Address)
      (ha : a ∈ cells (addressOf (t.er 7)) 16 ∪ cells (BitVec.ofNat 24 data) 36) :
      u.mem a = t.mem a :=
    hoem.mem helper t a ha
  -- ER2 to ER6 are given back, ER0 and ER1 are the helper's
  let er (r : ℕ) : BitVec 32 := if 2 ≤ r ∧ r ≤ 7 then e.er r else u.er r
  have h₇ : er 7 = E.cpu.er 7 := congrFun her.symm 7
  have hregs (r : ℕ) (v : BitVec 32) (hv : (E.resume h₇ u).file [4, 3, 2] r = some v) :
      u.er r = v := by
    rw [Entry.file] at hv
    split_ifs at hv with hr
    rw [← Option.some.inj hv]
    by_cases h₂ : 2 ≤ r
    · refine Eq.trans ?_ (if_pos ⟨h₂, by omega⟩).symm
      obtain rfl | rfl : r = 5 ∨ r = 6 := by
        simp only [List.mem_cons, List.not_mem_nil, or_false, not_or] at hr
        omega
      · exact (hreg 5 (by decide) (by decide)).trans (h.regs 5 _ h₅)
      · exact (hreg 6 (by decide) (by decide)).trans (h.regs 6 _ h₆)
    · exact (if_neg (by omega)).symm
  have hu := (h.resume er h₇ (hreg 7 (by decide) (by decide)) (fun a ha => hmem a (Or.inl ha)) rfl
    hregs).know (r := 4) (by decide)
      ((hreg 4 (by decide) (by decide)).trans (h.regs 4 _ hdata))
  have hreply (j : ℕ) (hj : j < 36) : BitVec.ofNat 24 data + BitVec.ofNat 24 j ∈ E.kept :=
    hkept ▸ Set.disjoint_right.mp hp.reply (add_mem_cells hj)
  have hK : vidKept data e ⊆ (E.resume h₇ u).kept := fun a ha => hkept ▸ vidKept_subset ha
  refine hu.ends_drop fun s hs => ?_
  refine hs.ends_clearByte (by decide) rfl fun s hs hb => ?_
  refine ends_vidWipe (f := fun j => u.mem (BitVec.ofNat 24 data + BitVec.ofNat 24 j))
    ⟨hs.shrink hK, fun j hj => hs.mem _ (hreply j hj)⟩ rfl hb
    (Set.disjoint_compl_right_iff_subset.mpr Set.subset_union_right) ?_ fun s hs => ?_
  · change Disjoint (below (addressOf (er 7)) E.room) _
    rw [h₇, hbelow]
    exact hp.reply
  refine ends_always hl ?_
  have hown : Disjoint (below (addressOf (er 7)) E.room) (e.ownStack 16)ᶜ := by
    rw [h₇, hbelow]
    exact disjoint_compl_right
  refine ends_vidReturn (E := (E.resume h₇ u).rebase s.mem hown)
    ((hs.inside.unknow rfl).rebase hown) fun v hv hcalls hm => ⟨t, v, rfl, hcall, ?_⟩
  refine ⟨fun r h₂ h₇ => (hv r h₇).trans (if_pos ⟨h₂, h₇⟩), hv 0 (by decide), ?_, ?_,
    fun a ha => ?_⟩
  · rw [hcalls, ← hcall.calls]
    rfl
  · refine read_wiped hp (m := u.mem) (fun j hj => ?_) fun j hj => ?_
    · rw [hmem _ (Or.inr (add_mem_cells hj)), ht j hj]
    · rw [hm _ (Set.disjoint_right.mp hp.reply (add_mem_cells hj))]
      exact hs.bytes j hj
  · exact (hm a (vidKept_subset ha)).trans (hs.inside.mem a ha)

theorem ends_vidSend {n : ℕ} (h : Inside (vidEntry e) (Function.update
      ((vidEntry e).file [4, 3, 2]) 3 (some (BitVec.ofNat 32 n))) [e.er 4, e.er 3, e.er 2] s) :
    VidEnds sites helper invalid data policy oem e (.send n)
      (Code.set 4 data :: ((List.range 16).flatMap (Code.vidCopy sites.vid.source) ++
        (Code.move .long (.long 4) (.long 2) ::
          Code.insn .sub (some .long) (.immediate 0xa00000 32) (.register (.long 2)) ::
          Code.push 3 :: Code.clear .byte (.byte 9) :: Code.call helper :: Code.adds 4 ::
          Code.clear .byte (.byte 10) ::
            ((List.range' 4 16).map (Code.storeByte 4) ++ (.branch 0 .vidReturn :: rest))))) s := by
  have hreply (j : ℕ) (hj : j < 36) :
      BitVec.ofNat 24 data + BitVec.ofNat 24 j ∈ (e.ownStack 16)ᶜ :=
    Set.disjoint_right.mp hp.reply (add_mem_cells hj)
  refine h.ends_set (by decide) fun s hs => ?_
  have hshrink : Inside ((vidEntry e).shrink (vidKept_subset : vidKept data e ⊆ _))
      (replyFile (vidEntry e) data n) [e.er 4, e.er 3, e.er 2] s := hs.shrink _
  refine ends_vidCopy hshrink rfl hp.reply ?_ (fun j hj => hs.mem _ (hreply j hj)) fun s hs => ?_
  · intro a ha hor
    exact hor.elim (fun hown => Set.disjoint_right.mp hp.source ha hown)
      fun hdata => Set.disjoint_right.mp hp.apart ha hdata
  have hs' := hs.inside.rebase (K := (e.ownStack 16)ᶜ) disjoint_compl_right
  refine hs'.ends_move (by decide) (hs'.regs 4 _ rfl) fun t ht => ?_
  refine ht.ends_subLong (by decide) (ht.regs 2 _ rfl) fun t ht => ?_
  refine ht.ends_push (show 16 ≤ 16 by decide) (ht.regs 3 _ rfl) fun t ht => ?_
  refine (ht.forget 1).ends_clearByte (by decide) rfl fun t ht hb => ?_
  refine .op rfl (ends_vidSent hp hoem ht rfl rfl rfl rfl rfl rfl
    (vidCall_of_inside hp ht rfl rfl rfl hb rfl hs.bytes hs.inside.mem) fun j hj => ?_)
  exact (ht.mem _ (hreply j hj)).trans (hs.bytes j hj)

theorem ends_vidReply {n : ℕ} (h : Inside (vidEntry e) (Function.update
      ((vidEntry e).file [4, 3, 2]) 3 (some (BitVec.ofNat 32 n))) [e.er 4, e.er 3, e.er 2] s) :
    VidEnds sites helper invalid data policy oem e
      (if e.mem (BitVec.ofNat 24 sites.vid.status) &&& 2 ≠ 0 then .send n else .invalid)
      (Code.vidReply sites helper data ++ Code.vidExits sites invalid) s := by
  obtain ⟨rest, hl⟩ : ∃ rest, after .vidUnavailable (Code.vid sites helper invalid data policy) =
    some (Code.pop 4 :: Code.pop 3 :: .label .vidInvalid :: Code.pop 2 :: Code.call invalid ::
      Code.insn .mov (some .byte) (.immediate 1 8) (.register (.byte 8)) :: Code.rts :: rest) :=
    ⟨_, rfl⟩
  refine h.ends_loadByte rfl hp.status fun t ht hb _ => ?_
  refine ht.ends_andByte rfl hb 2 fun t ht hz => ?_
  refine ends_when (p := e.mem (BitVec.ofNat 24 sites.vid.status) &&& 2 = 0) hl hz
    (fun hready => ?_) fun hready => ?_
  · rw [if_neg (not_not.mpr hready)]
    exact ends_vidUnavailable (ht.unknow rfl)
  · rw [if_pos hready]
    exact ends_vidSend hp hoem ht

omit hp hoem in
/-- The 16-bit length of the command, as ER3 then holds it. -/
theorem ends_loadLength {E : Entry} {file : File} {stack : List (BitVec 32)} {Q : Exit → Prop}
    {prog : Code} (h : Inside E file stack s) (hfile : file 3 = none)
    (hcdb : file 1 = some (E.cpu.er 1))
    (hkept : cells (addressOf (E.cpu.er 1)) 12 ⊆ E.kept)
    (hnext : ∀ t, Inside E file stack t →
      t.er 3 = BitVec.ofNat 32 (allocationLength E.command) → Ends (cpu oem) prog Q rest t) :
    Ends (cpu oem) prog Q
      (Code.insn .mov (some .word) (.address (.displacement (.long 1) 8 16))
          (.register (.word 3)) ::
        Code.insn .extu (some .long) (.register (.long 3)) .none :: rest) s := by
  set v := BitVec.ofNat 32 (allocationLength E.command)
  have ha : (Ea.locate .word s (.displacement (.long 1) 8 16)).1 =
      addressOf (E.cpu.er 1) + BitVec.ofNat 24 8 := by
    rw [Ea.locate, Cpu.get_long, h.regs 1 _ hcdb, addressOf_displacement _ (by decide)]
  have hload : load .word s.mem (addressOf (E.cpu.er 1) + BitVec.ofNat 24 8) = v := by
    have hread (a : Address) : E.cpu.mem.read a 2 =
        [E.cpu.mem a, E.cpu.mem (a + BitVec.ofNat 24 1)] := by
      rw [Store.read_add (n := 1) (k := 1), Store.read_one, Store.read_one]
      rfl
    rw [load_congr fun x hx => h.mem x (hkept (cells_subset (by decide) hx)), load, Size.bytes,
      hread, BitVec.add_assoc, ← BitVec.ofNat_add]
    rfl
  have hsmall : v &&& 0xffff = v := by
    have hlt := allocationLength_lt E.command
    apply BitVec.eq_of_toNat_eq
    rw [BitVec.toNat_and, BitVec.toNat_ofNat, Nat.mod_eq_of_lt (by omega)]
    exact (Nat.and_two_pow_sub_one_eq_mod _ 16).trans (Nat.mod_eq_of_lt hlt)
  have hput : (s.put (.word 3) v).er 3 &&& 0xffff#32 = v := by
    have hget := Cpu.get_put (s := s) (r := .word 3) (v := v)
    have hmask : (Reg.word 3).mask = 0xffff := rfl
    have hlow : (Reg.word 3).low = 0 := rfl
    rw [Cpu.get, hmask, hlow, BitVec.ushiftRight_zero, hsmall] at hget
    exact hget
  have hs : Inside E file stack (s.put (.word 3) v) := h.put (x := .word 3) (by decide) hfile v
  refine .op (t := (s.put (.word 3) v).test v) ?_ (.op (t := (((s.put (.word 3) v).test v).setEr 3
    v).test v) ?_ (hnext _ (((hs.test v).setEr (by decide) hfile v).test v) Cpu.setEr_er_self))
  · simp only [cpu, CodeOp.exec, Insn.exec, Operand.value, ha, hload]
    rfl
  · simp [cpu, CodeOp.exec, Insn.exec, hput]

theorem ends_vidLength (h : Inside (vidEntry e) ((vidEntry e).file [2]) [e.er 2] s) :
    VidEnds sites helper invalid data policy oem e
      (if allocationLength (vidEntry e).command = 0 then .empty
        else if e.mem (BitVec.ofNat 24 sites.vid.status) &&& 2 ≠ 0 then
          .send (min (allocationLength (vidEntry e).command) 36)
        else .invalid)
      (Code.vidLength ++ (Code.vidReply sites helper data ++ Code.vidExits sites invalid)) s := by
  obtain ⟨rest, hempty⟩ : ∃ rest, after .vidEmpty (Code.vid sites helper invalid data policy) =
    some (Code.clear .byte (.byte 8) :: .label .vidReturn :: Code.pop 4 :: Code.pop 3 ::
      Code.pop 2 :: Code.rts :: rest) := ⟨_, rfl⟩
  have hlength : after .vidLength (Code.vid sites helper invalid data policy) =
    some (Code.vidReply sites helper data ++ Code.vidExits sites invalid) := rfl
  set n := allocationLength (vidEntry e).command
  have hn : n < 2 ^ 16 := allocationLength_lt _
  have htoNat {k : ℕ} (hk : k < 2 ^ 16) : (BitVec.ofNat 32 k).toNat = k := by
    rw [BitVec.toNat_ofNat, Nat.mod_eq_of_lt (hk.trans (by norm_num))]
  refine h.ends_save (show 8 ≤ 16 by decide) (by decide) fun s hs => ?_
  refine hs.ends_save (show 12 ≤ 16 by decide) (by decide) fun s hs => ?_
  refine ends_loadLength hs rfl rfl (Set.subset_compl_iff_disjoint_left.mpr hp.command)
    fun s hs h₃ => ?_
  refine hs.ends_compareLong h₃ fun s hs h₃ hz _ => ?_
  refine ends_when hempty hz (fun h₀ => ?_) fun h₀ => ?_
  · have hn₀ : n = 0 := (htoNat hn).symm.trans (congrArg BitVec.toNat h₀)
    rw [if_pos hn₀]
    exact ends_vidEmpty hs
  rw [if_neg fun hn₀ => h₀ (congrArg (BitVec.ofNat 32) hn₀)]
  refine hs.ends_compareLong h₃ fun s hs h₃ _ hc => ?_
  have hlt : BitVec.ofNat 32 n < BitVec.ofNat 32 36 ↔ n < 36 := by
    rw [BitVec.lt_def, htoNat hn, htoNat (by decide)]
  refine ends_carry hlength (hc.trans (decide_eq_decide.mpr hlt)) (fun hlt => ?_) fun hle => ?_
  · rw [min_eq_left hlt.le]
    exact ends_vidReply hp hoem (hs.know (by decide) h₃)
  · rw [min_eq_right (not_lt.mp hle)]
    refine hs.ends_set (by decide) fun s hs => .label ?_
    exact ends_vidReply hp hoem hs

/-! ## The hook -/

omit hoem in
theorem command_kept {i : ℕ} (hi : i < 12) :
    i < 2 ^ 15 ∧ addressOf (e.er 1) + BitVec.ofNat 24 i ∈ (e.ownStack 16)ᶜ :=
  ⟨by omega, Set.disjoint_right.mp hp.command (add_mem_cells hi)⟩

theorem ends_vidReserved (h : Inside (vidEntry e) ((vidEntry e).file [2]) [e.er 2] s)
    (hcommand : (vidEntry e).command 0 = 0xad ∧ (vidEntry e).command 1 = 1 ∧
      (vidEntry e).command 7 = 0x80) {owned : Prop} [Decidable owned] (howned : owned) :
    VidEnds sites helper invalid data policy oem e (vidAnswer (vidEntry e).command owned
        (e.mem (BitVec.ofNat 24 sites.vid.status) &&& 2 ≠ 0))
      (Code.cdbByte 10 ::
        Code.insn .and (some .byte) (.immediate 0x3f 8) (.register (.byte 10)) ::
        .branch 6 .vidInvalid :: Code.cdbByte 10 :: Code.compareByte 0 :: .branch 6 .vidOem ::
        (Code.checks [(2, 0), (3, 0), (4, 0), (5, 0), (6, 0), (11, 0)] .vidInvalid ++
          (Code.vidLength ++ (Code.vidReply sites helper data ++ Code.vidExits sites invalid))))
      s := by
  obtain ⟨rest, hoemLabel⟩ : ∃ rest, after .vidOem (Code.vid sites helper invalid data policy) =
    some (Code.pop 2 :: Code.tail sites.vid.main :: rest) := ⟨_, rfl⟩
  obtain ⟨rest', hinvalid⟩ : ∃ rest',
    after .vidInvalid (Code.vid sites helper invalid data policy) =
      some (Code.pop 2 :: Code.call invalid ::
        Code.insn .mov (some .byte) (.immediate 1 8) (.register (.byte 8)) :: Code.rts :: rest') :=
    ⟨_, rfl⟩
  have h₁₀ := command_kept hp (i := 10) (by decide)
  rw [vidAnswer, if_neg (by simp [hcommand, howned])]
  refine h.ends_cdbByte rfl rfl h₁₀.1 h₁₀.2 fun s hs hb => ?_
  refine hs.ends_andByte rfl hb 0x3f fun s hs hz => ?_
  refine ends_unless hinvalid hz (fun hne => ?_) fun hagid => ?_
  · rw [if_pos hne]
    exact ends_vidInvalid hs
  rw [if_neg (not_not.mpr hagid)]
  refine hs.ends_cdbByte rfl rfl h₁₀.1 h₁₀.2 fun s hs hb => ?_
  refine hs.ends_compareByte hb fun s hs _ hz _ => ?_
  refine ends_unless hoemLabel hz (fun hne => ?_) fun hagid => ?_
  · rw [if_pos hne]
    exact ends_vidOem hs
  rw [if_neg (not_not.mpr hagid)]
  refine hs.ends_checks rfl rfl ?_ hinvalid (fun hne s hs => ?_) fun hall s hs => ?_
  · intro c hc
    refine command_kept hp ?_
    revert c
    decide
  · rw [if_pos (by simpa [-not_and, not_and_or] using hne)]
    exact ends_vidInvalid hs
  · rw [if_neg (by simpa using hall)]
    exact ends_vidLength hp hoem hs

theorem ends_vid : VidEnds sites helper invalid data policy oem e (vidAnswer (vidEntry e).command
      (load .long e.mem (BitVec.ofNat 24 sites.securitySlot) = BitVec.ofNat 32 policy)
      (e.mem (BitVec.ofNat 24 sites.vid.status) &&& 2 ≠ 0))
    (Code.vid sites helper invalid data policy) e := by
  obtain ⟨rest, hl⟩ : ∃ rest, after .vidOem (Code.vid sites helper invalid data policy) =
    some (Code.pop 2 :: Code.tail sites.vid.main :: rest) := ⟨_, rfl⟩
  refine ((vidEntry e).inside []).ends_save (show 4 ≤ 16 by decide) (by decide) fun s hs => ?_
  have hkept : ∀ c ∈ ([(0, 0xad), (1, 1), (7, 0x80)] : List (ℕ × UInt8)), c.1 < 2 ^ 15 ∧
      addressOf (e.er 1) + BitVec.ofNat 24 c.1 ∈ (e.ownStack 16)ᶜ := by
    intro c hc
    refine command_kept hp ?_
    revert c
    decide
  refine hs.ends_checks rfl rfl hkept hl (fun hne s hs => ?_) fun hall s hs => ?_
  · rw [vidAnswer, if_pos (Or.inl (by simpa using hne))]
    exact ends_vidOem hs
  refine hs.ends_loadLong (by decide) rfl (Set.subset_compl_iff_disjoint_left.mpr hp.slot)
    fun s hs h₂ => ?_
  refine hs.ends_compareLong h₂ fun s hs _ hz _ => ?_
  refine ends_unless (p := load .long e.mem (BitVec.ofNat 24 sites.securitySlot) =
    BitVec.ofNat 32 policy) hl hz (fun hne => ?_) fun howned => ?_
  · rw [vidAnswer, if_pos (Or.inr hne)]
    exact ends_vidOem hs
  · have hcommand : (vidEntry e).command 0 = 0xad ∧ (vidEntry e).command 1 = 1 ∧
        (vidEntry e).command 7 = 0x80 := by simpa using hall
    exact ends_vidReserved hp hoem hs hcommand howned

/-- The Volume ID hook is assembled from its lines, and with the addresses of the placed payload in
them every run ends with the answer to its command. -/
theorem vidWrapper_answers :
    (∀ H, vidWrapper H sites helper invalid = assembleItems H
      ((Code.vid sites helper invalid vidDataMarker vidPolicyMarker).map (item H))) ∧
    Ends (cpu oem) (Code.vid sites helper invalid data policy)
      (VidAnswered sites helper invalid data oem e
        (vidAnswer (fun i => e.mem (addressOf (e.er 1) + BitVec.ofNat 24 i))
          (load .long e.mem (BitVec.ofNat 24 sites.securitySlot) = BitVec.ofNat 32 policy)
          (e.mem (BitVec.ofNat 24 sites.vid.status) &&& 2 ≠ 0)))
      (Code.vid sites helper invalid data policy) e :=
  ⟨fun H => Code.vidWrapper_eq sites helper invalid H, ends_vid hp hoem⟩

omit hp hoem

def sampleCpu : Cpu where
  er r := if r = 1 then 0x2000 else if r = 7 then 0x7000 else 0
  zero := false
  carry := false
  mem := [(0x2000, [0xad, 1, 0, 0, 0, 0, 0, 0x80, 0, 20, 0, 0]), (0x13b6, u32ToBeBytes 0xa08100),
    (0xffed3c, [2]), (0xa08200, [0, 0x22, 0, 0])].foldl (fun m w => Store.write m w.1 w.2)
      fun _ => 0
  calls := []

theorem vidWrapper_answers_sample :
    Ends (cpu fun _ s => s) (Code.vid .fixture 0x412000 0x413000 0xa08200 0xa08100)
      (VidAnswered .fixture 0x412000 0x413000 0xa08200 (fun _ s => s) sampleCpu (.send 20))
      (Code.vid .fixture 0x412000 0x413000 0xa08200 0xa08100) sampleCpu := by
  have hp : VidPlaced .fixture 0xa08200 sampleCpu :=
    { command := (disjoint_cells (by decide) (by decide)).symm
      slot := (disjoint_cells (by decide) (by decide)).symm
      status := fun h => absurd (mem_cells.mp h) (by decide)
      source := disjoint_cells (by decide) (by decide)
      reply := disjoint_cells (by decide) (by decide)
      apart := disjoint_cells (by decide) (by decide)
      resident := by decide }
  have hoem := Oem.respects_id 16 (cells (BitVec.ofNat 24 0xa08200) 36)
  have hanswer : vidAnswer (fun i => sampleCpu.mem (addressOf (sampleCpu.er 1) + BitVec.ofNat 24 i))
      (load .long sampleCpu.mem (BitVec.ofNat 24 Sites.fixture.securitySlot) =
        BitVec.ofNat 32 0xa08100)
      (sampleCpu.mem (BitVec.ofNat 24 Sites.fixture.vid.status) &&& 2 ≠ 0) = .send 20 := by
    decide +kernel
  rw [← hanswer]
  exact (vidWrapper_answers hp hoem).2

end FreemkvUnlock.Renesas
