import FreemkvUnlock.Renesas.Lines

/-! # Inside a hook

What holds between the lines of a hook: which registers are known, what lies on its stack, and
that kept memory is as it was on entry. Each kind of line has one rule that says what it changes.
-/

namespace FreemkvUnlock.Renesas

open Bytes Listing

/-! ## The state of a hook -/

theorem addressOf_add (x : BitVec 32) (n : ℕ) :
    addressOf (x + BitVec.ofNat 32 n) = addressOf x + BitVec.ofNat 24 n := by
  rw [addressOf, BitVec.setWidth_add _ _ (by decide), BitVec.setWidth_ofNat_of_le (by decide)]
  rfl

theorem addressOf_sub (x : BitVec 32) (n : ℕ) :
    addressOf (x - BitVec.ofNat 32 n) = addressOf x - BitVec.ofNat 24 n := by
  rw [eq_comm, BitVec.sub_eq_iff_eq_add, ← addressOf_add, BitVec.sub_add_cancel]

theorem addressOf_displacement (x : BitVec 32) {i : ℕ} (hi : i < 2 ^ 15) :
    addressOf (x + (BitVec.ofNat 16 i).signExtend 32) = addressOf x + BitVec.ofNat 24 i := by
  have hmsb : (BitVec.ofNat 16 i).msb = false := by
    rw [BitVec.msb_eq_false_iff_two_mul_lt, BitVec.toNat_ofNat]
    omega
  rw [← addressOf_add, BitVec.signExtend_eq_setWidth_of_msb_false hmsb,
    BitVec.setWidth_ofNat_of_le_of_lt (by decide)]
  omega

def below (a : Address) (n : ℕ) : Set Address := cells (a - BitVec.ofNat 24 n) n

theorem cells_subset_below {a : Address} {i k n : ℕ} (hk : k ≤ i) (hn : i ≤ n) :
    cells (a - BitVec.ofNat 24 i) k ⊆ below a n := by
  have h : a - BitVec.ofNat 24 i = a - BitVec.ofNat 24 n + BitVec.ofNat 24 (n - i) := by
    rw [BitVec.sub_eq_iff_eq_add, BitVec.add_assoc, ← BitVec.ofNat_add, Nat.sub_add_cancel hn,
      BitVec.sub_add_cancel]
  rw [h]
  exact cells_subset (by omega)

/-- The state a hook is entered in, the room its stack has, and the memory it is to keep. -/
structure Entry where
  cpu : Cpu
  room : ℕ
  kept : Set Address
  room_le : room ≤ 2 ^ 24
  own : Disjoint (below (addressOf (cpu.er 7)) room) kept

def Entry.command (E : Entry) (i : ℕ) : UInt8 :=
  E.cpu.mem (addressOf (E.cpu.er 1) + BitVec.ofNat 24 i)

abbrev File := ℕ → Option (BitVec 32)

/-- ER0 to ER6 as on entry, but for what `free` names. -/
def Entry.file (E : Entry) (free : List ℕ) : File :=
  fun r => if 7 ≤ r ∨ r ∈ free then none else some (E.cpu.er r)

def Entry.shrink {K : Set Address} (E : Entry) (hK : K ⊆ E.kept) : Entry :=
  { E with kept := K, own := E.own.mono_right hK }

def Entry.rebase {K : Set Address} (E : Entry) (m : Store 24)
    (hK : Disjoint (below (addressOf (E.cpu.er 7)) E.room) K) : Entry :=
  { E with cpu := E.cpu.setMem m, kept := K, own := hK }

def Entry.setMem (E : Entry) (m : Store 24) : Entry := { E with cpu := E.cpu.setMem m }

def Entry.put {x : Reg} (E : Entry) (hx : x.index ≠ 7) (v : BitVec 32) : Entry where
  cpu := E.cpu.put x v
  room := E.room
  kept := E.kept
  room_le := E.room_le
  own := by
    rw [Cpu.put_er_of_ne hx.symm]
    exact E.own

def longs (vs : List (BitVec 32)) : List UInt8 := vs.flatMap fun v => u32ToBeBytes v.toNat

/-- Between two lines of a hook: the known registers, the stack with its top first, and no call
yet. -/
structure Inside (E : Entry) (file : File) (stack : List (BitVec 32)) (s : Cpu) : Prop where
  sp : s.er 7 = E.cpu.er 7 - BitVec.ofNat 32 (4 * stack.length)
  free : file 7 = none
  regs : ∀ r v, file r = some v → s.er r = v
  room : 4 * stack.length ≤ E.room
  stack : s.mem.read (addressOf (s.er 7)) (4 * stack.length) = longs stack
  mem : ∀ a ∈ E.kept, s.mem a = E.cpu.mem a
  calls : s.calls = E.cpu.calls

variable {E : Entry} {file file' : File} {stack : List (BitVec 32)} {s t : Cpu} {r : ℕ}
  {v : BitVec 32}

theorem Entry.inside (E : Entry) (free : List ℕ) : Inside E (E.file free) [] E.cpu where
  sp := (BitVec.sub_zero _).symm
  free := if_pos (Or.inl le_rfl)
  regs r v h := by
    rw [Entry.file] at h
    split_ifs at h
    exact Option.some.inj h
  room := Nat.zero_le _
  stack := rfl
  mem _ _ := rfl
  calls := rfl

namespace Inside

theorem congr (h : Inside E file stack s) (her : t.er = s.er) (hmem : t.mem = s.mem)
    (hcalls : t.calls = s.calls) : Inside E file stack t where
  sp := her ▸ h.sp
  free := h.free
  regs := her ▸ h.regs
  room := h.room
  stack := her ▸ hmem ▸ h.stack
  mem := hmem ▸ h.mem
  calls := hcalls ▸ h.calls

theorem test (h : Inside E file stack s) (v : BitVec 32) : Inside E file stack (s.test v) :=
  h.congr rfl rfl rfl

theorem compare (h : Inside E file stack s) (x y : BitVec 32) :
    Inside E file stack (s.compare x y) :=
  h.congr rfl rfl rfl

theorem mono (h : Inside E file stack s) (hle : ∀ r v, file' r = some v → file r = some v) :
    Inside E file' stack s where
  sp := h.sp
  free := Option.eq_none_iff_forall_ne_some.mpr fun v hv =>
    Option.some_ne_none v ((hle 7 v hv).symm.trans h.free)
  regs r v hv := h.regs r v (hle r v hv)
  room := h.room
  stack := h.stack
  mem := h.mem
  calls := h.calls

theorem unknow {x : Option (BitVec 32)} (h : Inside E (Function.update file r x) stack s)
    (hr : file r = none) : Inside E file stack s := by
  refine h.mono fun r' v' h' => ?_
  have hne : r' ≠ r := fun hrr => Option.some_ne_none v' (h'.symm.trans (hrr ▸ hr))
  rwa [Function.update_of_ne hne]

theorem setEr (h : Inside E file stack s) (hr : r ≠ 7) (hfile : file r = none) (v : BitVec 32) :
    Inside E file stack (s.setEr r v) := by
  have hsp : (s.setEr r v).er 7 = s.er 7 := Cpu.setEr_er_of_ne hr.symm
  refine ⟨hsp ▸ h.sp, h.free, fun r' v' h' => ?_, h.room, ?_, h.mem, h.calls⟩
  · have hne : r' ≠ r := fun hrr => Option.some_ne_none v' (h'.symm.trans (hrr ▸ hfile))
    exact (Cpu.setEr_er_of_ne hne).trans (h.regs r' v' h')
  · rw [hsp]
    exact h.stack

theorem know (h : Inside E file stack s) (hr : r ≠ 7) (hv : s.er r = v) :
    Inside E (Function.update file r (some v)) stack s := by
  refine ⟨h.sp, (Function.update_of_ne hr.symm _ _).trans h.free, fun r' v' h' => ?_, h.room,
    h.stack, h.mem, h.calls⟩
  by_cases hrr : r' = r
  · subst hrr
    rw [Function.update_self] at h'
    exact hv.trans (Option.some.inj h')
  · rw [Function.update_of_ne hrr] at h'
    exact h.regs r' v' h'

theorem forget (h : Inside E file stack s) (r : ℕ) :
    Inside E (Function.update file r none) stack s := by
  refine h.mono fun r' v' h' => ?_
  by_cases hrr : r' = r
  · subst hrr
    rw [Function.update_self] at h'
    cases h'
  · rwa [Function.update_of_ne hrr] at h'

theorem set (h : Inside E file stack s) (hr : r ≠ 7) (v : BitVec 32) :
    Inside E (Function.update file r (some v)) stack (s.setEr r v) := by
  have hs := ((h.forget r).setEr hr (Function.update_self r none file) v).know hr Cpu.setEr_er_self
  rwa [Function.update_idem] at hs

theorem put {x : Reg} (h : Inside E file stack s) (hr : x.index ≠ 7) (hfile : file x.index = none)
    (v : BitVec 32) : Inside E file stack (s.put x v) :=
  h.setEr hr hfile _

/-- Memory that is neither kept nor on the stack may change. -/
theorem write {a : Address} {bs : List UInt8} (h : Inside E file stack s)
    (hkept : Disjoint (cells a bs.length) E.kept)
    (hstack : Disjoint (cells a bs.length) (cells (addressOf (s.er 7)) (4 * stack.length))) :
    Inside E file stack (s.setMem (s.mem.write a bs)) where
  sp := h.sp
  free := h.free
  regs := h.regs
  room := h.room
  stack := (Store.read_write_of_disjoint hstack.symm).trans h.stack
  mem x hx := (Store.write_of_notMem (Set.disjoint_right.mp hkept hx)).trans (h.mem x hx)
  calls := h.calls

theorem cells_subset_below (h : Inside E file stack s) :
    cells (addressOf (s.er 7)) (4 * stack.length) ⊆ below (addressOf (E.cpu.er 7)) E.room := by
  rw [h.sp, addressOf_sub]
  exact Renesas.cells_subset_below le_rfl h.room

theorem push (h : Inside E file stack s) (hroom : 4 * (stack.length + 1) ≤ E.room)
    (v : BitVec 32) : Inside E file (v :: stack) ((s.setEr 7 (s.er 7 - 4#32)).setMem
      (store .long s.mem (addressOf (s.er 7 - 4#32)) v)) := by
  set a := addressOf (s.er 7 - 4#32)
  have hsp : s.er 7 - 4#32 = E.cpu.er 7 - BitVec.ofNat 32 (4 * (stack.length + 1)) := by
    rw [h.sp, BitVec.sub_sub, ← BitVec.ofNat_add, Nat.mul_succ]
  have ha : a = addressOf (E.cpu.er 7) - BitVec.ofNat 24 (4 * (stack.length + 1)) := by
    rw [← addressOf_sub, ← hsp]
  have hnext : addressOf (s.er 7) = a + BitVec.ofNat 24 4 := by
    rw [← addressOf_add, BitVec.sub_add_cancel]
  have hdisj : Disjoint (cells (addressOf (s.er 7)) (4 * stack.length)) (cells a 4) := by
    have := E.room_le
    rw [hnext]
    exact (disjoint_cells_next (by omega)).symm
  refine ⟨?_, h.free, fun r v' h' => ?_, hroom, ?_, fun x hx => ?_, h.calls⟩
  · rw [Cpu.setMem_er, Cpu.setEr_er_self, hsp, List.length_cons]
  · have hne : r ≠ 7 := fun hr => Option.some_ne_none v' (h'.symm.trans (hr ▸ h.free))
    exact (Cpu.setEr_er_of_ne hne).trans (h.regs r v' h')
  · have htop : (store .long s.mem a v).read a 4 = u32ToBeBytes v.toNat :=
      Store.read_write (show 4 ≤ 2 ^ 24 by decide)
    have hrest : (store .long s.mem a v).read (addressOf (s.er 7)) (4 * stack.length) =
        longs stack :=
      (Store.read_write_of_disjoint hdisj).trans h.stack
    rw [Cpu.setMem_er, Cpu.setEr_er_self, Cpu.setMem_mem, List.length_cons, Nat.mul_succ,
      Nat.add_comm, Store.read_add, ← hnext, htop, hrest]
    rfl
  · refine (Store.write_of_notMem fun hx' => ?_).trans (h.mem x hx)
    have hown : x ∈ cells a 4 := hx'
    rw [ha] at hown
    exact Set.disjoint_left.mp E.own (Renesas.cells_subset_below (by omega) hroom hown) hx

theorem pop (h : Inside E file (v :: stack) s) :
    load .long s.mem (addressOf (s.er 7)) = v ∧
      Inside E file stack (s.setEr 7 (s.er 7 + 4#32)) := by
  have hread : s.mem.read (addressOf (s.er 7)) 4 ++
      s.mem.read (addressOf (s.er 7) + BitVec.ofNat 24 4) (4 * stack.length) =
        u32ToBeBytes v.toNat ++ longs stack := by
    rw [← Store.read_add, Nat.add_comm, ← Nat.mul_succ]
    exact h.stack
  obtain ⟨htop, hrest⟩ := List.append_inj hread Store.length_read
  refine ⟨?_, ?_, h.free, fun r v' h' => ?_, ?_, ?_, h.mem, h.calls⟩
  · rw [load, Size.bytes, htop, fromBytesBe_u32ToBeBytes, Nat.mod_eq_of_lt v.isLt,
      BitVec.ofNat_toNat, BitVec.setWidth_eq]
  · rw [Cpu.setEr_er_self, h.sp, List.length_cons, Nat.mul_succ, BitVec.ofNat_add,
      ← BitVec.sub_sub, BitVec.sub_add_cancel]
  · have hne : r ≠ 7 := fun hr => Option.some_ne_none v' (h'.symm.trans (hr ▸ h.free))
    exact (Cpu.setEr_er_of_ne hne).trans (h.regs r v' h')
  · exact (Nat.mul_le_mul_left 4 (Nat.le_succ _)).trans h.room
  · rw [Cpu.setEr_er_self, show s.er 7 + 4#32 = s.er 7 + BitVec.ofNat 32 4 from rfl, addressOf_add]
    exact hrest

theorem shrink {K : Set Address} (h : Inside E file stack s) (hK : K ⊆ E.kept) :
    Inside (E.shrink hK) file stack s :=
  ⟨h.sp, h.free, h.regs, h.room, h.stack, fun a ha => h.mem a (hK ha), h.calls⟩

theorem rebase (h : Inside E file stack s) {K : Set Address}
    (hK : Disjoint (below (addressOf (E.cpu.er 7)) E.room) K) :
    Inside (E.rebase s.mem hK) file stack s :=
  ⟨h.sp, h.free, h.regs, h.room, h.stack, fun _ _ => rfl, h.calls⟩

/-- A write to kept memory may be seen as made before the entry. -/
theorem writeEntry {a : Address} {bs : List UInt8} (h : Inside E file stack s)
    (ha : cells a bs.length ⊆ E.kept) :
    Inside (E.setMem (E.cpu.mem.write a bs)) file stack (s.setMem (s.mem.write a bs)) where
  sp := h.sp
  free := h.free
  regs := h.regs
  room := h.room
  stack := (Store.read_write_of_disjoint (Set.disjoint_of_subset h.cells_subset_below ha
    E.own)).trans h.stack
  mem x hx := by
    change s.mem.write a bs x = E.cpu.mem.write a bs x
    rw [Store.write, Store.write, h.mem x hx]
  calls := h.calls

theorem putEntry {free : List ℕ} {x : Reg} (h : Inside E (E.file free) stack s)
    (hx : x.index ≠ 7) (v : BitVec 32) :
    Inside (E.put hx v) ((E.put hx v).file free) stack (s.put x v) := by
  have hsp (c : Cpu) : (c.put x v).er 7 = c.er 7 := Cpu.put_er_of_ne hx.symm
  refine ⟨?_, if_pos (Or.inl le_rfl), fun r w hr => ?_, h.room, ?_, h.mem, h.calls⟩
  · rw [hsp, h.sp]
    exact congrArg (· - _) (hsp E.cpu).symm
  · rw [Entry.file] at hr
    split_ifs at hr with hfile
    have hsr (r : ℕ) (hr : ¬ (7 ≤ r ∨ r ∈ free)) : s.er r = E.cpu.er r := h.regs r _ (if_neg hr)
    rw [← Option.some.inj hr]
    by_cases hrx : r = x.index
    · subst hrx
      rw [Cpu.put, Cpu.setEr_er_self, hsr _ hfile]
      exact Cpu.setEr_er_self.symm
    · rw [Cpu.put_er_of_ne hrx, hsr r hfile]
      exact (Cpu.put_er_of_ne hrx).symm
  · rw [hsp]
    exact h.stack

/-- At the end of a hook the registers are as on entry. -/
theorem er_eq (h : Inside E (E.file []) [] s) (hr : r ≤ 7) : s.er r = E.cpu.er r := by
  obtain rfl | hr := hr.eq_or_lt
  · exact h.sp.trans (BitVec.sub_zero _)
  · exact h.regs r _ (if_neg (by simpa using hr))

end Inside

/-! ## Calls -/

/-- What OEM routines leave alone: the callee-saved registers, `n` bytes at the top of their
caller's stack, and the resident bytes. -/
structure Oem.Respects (oem : Oem) (n : ℕ) (resident : Set Address) : Prop where
  regs : ∀ target s r, 3 ≤ r → r ≤ 7 → (oem target s).er r = s.er r
  mem : ∀ target s, ∀ a ∈ cells (addressOf (s.er 7)) n ∪ resident,
    (oem target s).mem a = s.mem a

theorem Oem.Respects.mono {oem : Oem} {n : ℕ} {K L : Set Address} (h : oem.Respects n L)
    (hK : K ⊆ L) : oem.Respects n K :=
  ⟨h.regs, fun target s a ha => h.mem target s a (ha.imp_right fun hx => hK hx)⟩

theorem Oem.respects_id (n : ℕ) (K : Set Address) : Oem.Respects (fun _ s => s) n K :=
  ⟨fun _ _ _ _ _ => rfl, fun _ _ _ _ => rfl⟩

/-- The entry a hook might have had, seen after a call: memory is what the call left, and the
registers are those that the hook has to give back. -/
def Entry.resume {er : ℕ → BitVec 32} (E : Entry) (her : er 7 = E.cpu.er 7) (u : Cpu) : Entry where
  cpu := { u with er := er }
  room := E.room
  kept := E.kept
  room_le := E.room_le
  own := by
    change Disjoint (below (addressOf (er 7)) E.room) E.kept
    rw [her]
    exact E.own

theorem Inside.resume {u : Cpu} (h : Inside E file stack s) (er : ℕ → BitVec 32)
    (her : er 7 = E.cpu.er 7) (hsp : u.er 7 = s.er 7)
    (hstack : ∀ a ∈ cells (addressOf (s.er 7)) (4 * stack.length), u.mem a = s.mem a)
    (hfree : file' 7 = none) (hregs : ∀ r v, file' r = some v → u.er r = v) :
    Inside (E.resume her u) file' stack u where
  sp := (hsp.trans h.sp).trans (congrArg (· - _) her.symm)
  free := hfree
  regs := hregs
  room := h.room
  stack := by rw [hsp, Store.read_congr hstack, h.stack]
  mem _ _ := rfl
  calls := rfl

/-! ## Entry and exit -/

def Cpu.ownStack (e : Cpu) (n : ℕ) : Set Address := below (addressOf (e.er 7)) n

def Cpu.entry (e : Cpu) (n : ℕ) (hn : n ≤ 2 ^ 24) : Entry where
  cpu := e
  room := n
  kept := (e.ownStack n)ᶜ
  room_le := hn
  own := disjoint_compl_right

/-- A state as `e` but for the flags and the hook's own stack. -/
structure AsEntered (n : ℕ) (e s : Cpu) : Prop where
  er : ∀ r ≤ 7, s.er r = e.er r
  calls : s.calls = e.calls
  mem : ∀ a ∉ e.ownStack n, s.mem a = e.mem a

theorem Inside.asEntered {n : ℕ} (h : Inside E (E.file []) [] s)
    (hkept : E.kept = (E.cpu.ownStack n)ᶜ) : AsEntered n E.cpu s :=
  ⟨fun _ hr => h.er_eq hr, h.calls, fun a ha => h.mem a (hkept ▸ ha)⟩

end FreemkvUnlock.Renesas
