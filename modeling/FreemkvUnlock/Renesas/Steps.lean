import FreemkvUnlock.Renesas.Inside

/-! # The rules of the lines

One rule for each kind of line of a hook: what has to hold before it, and what it leaves for the
lines after it.
-/

namespace FreemkvUnlock.Renesas

open Bytes Listing

variable {E : Entry} {file : File} {stack : List (BitVec 32)} {s t : Cpu} {r : ℕ}
  {v : BitVec 32} {b c : UInt8} {oem : Oem} {prog code rest : Code} {Q : Exit → Prop} {l : Label}

/-! ## Branches -/

section Branches

variable {p : Prop} [Decidable p]

theorem ends_always (hl : after l prog = some code) (h : Ends (cpu oem) prog Q code s) :
    Ends (cpu oem) prog Q (.branch 0 l :: rest) s :=
  .branch hl (fun _ => h) fun hk => Bool.noConfusion hk

theorem ends_unless (hl : after l prog = some code) (hz : s.zero = decide p)
    (htaken : ¬ p → Ends (cpu oem) prog Q code s) (hpassed : p → Ends (cpu oem) prog Q rest s) :
    Ends (cpu oem) prog Q (.branch 6 l :: rest) s := by
  refine .branch hl (fun hk => htaken ?_) fun hk => hpassed ?_
  · change (!s.zero) = true at hk
    rw [hz, ← decide_not] at hk
    exact of_decide_eq_true hk
  · change (!s.zero) = false at hk
    rw [hz, ← decide_not] at hk
    exact not_not.mp (of_decide_eq_false hk)

theorem ends_when (hl : after l prog = some code) (hz : s.zero = decide p)
    (htaken : p → Ends (cpu oem) prog Q code s) (hpassed : ¬ p → Ends (cpu oem) prog Q rest s) :
    Ends (cpu oem) prog Q (.branch 7 l :: rest) s :=
  .branch hl (fun hk => htaken (of_decide_eq_true (hz.symm.trans hk)))
    fun hk => hpassed (of_decide_eq_false (hz.symm.trans hk))

theorem ends_carry (hl : after l prog = some code) (hc : s.carry = decide p)
    (htaken : p → Ends (cpu oem) prog Q code s) (hpassed : ¬ p → Ends (cpu oem) prog Q rest s) :
    Ends (cpu oem) prog Q (.branch 5 l :: rest) s :=
  .branch hl (fun hk => htaken (of_decide_eq_true (hc.symm.trans hk)))
    fun hk => hpassed (of_decide_eq_false (hc.symm.trans hk))

theorem ends_noCarry (hl : after l prog = some code) (hc : s.carry = decide p)
    (htaken : ¬ p → Ends (cpu oem) prog Q code s) (hpassed : p → Ends (cpu oem) prog Q rest s) :
    Ends (cpu oem) prog Q (.branch 4 l :: rest) s := by
  refine .branch hl (fun hk => htaken ?_) fun hk => hpassed ?_
  · change (!s.carry) = true at hk
    rw [hc, ← decide_not] at hk
    exact of_decide_eq_true hk
  · change (!s.carry) = false at hk
    rw [hc, ← decide_not] at hk
    exact not_not.mp (of_decide_eq_false hk)

end Branches

/-! ## Registers and the stack -/

namespace Inside

theorem ends_push (h : Inside E file stack s) (hroom : 4 * (stack.length + 1) ≤ E.room)
    (hv : s.er r = v) (hnext : ∀ t, Inside E file (v :: stack) t → Ends (cpu oem) prog Q rest t) :
    Ends (cpu oem) prog Q (Code.push r :: rest) s := by
  refine .op (t := ((s.setEr 7 (s.er 7 - 4#32)).setMem
    (store .long s.mem (addressOf (s.er 7 - 4#32)) v)).test v) ?_
    (hnext _ ((h.push hroom v).test v))
  simp [cpu, CodeOp.exec, Insn.exec, Ea.locate, Size.bytes, hv]

theorem ends_pop (h : Inside E file (v :: stack) s) (hr : r ≠ 7)
    (hnext : ∀ t, Inside E (Function.update file r (some v)) stack t →
      Ends (cpu oem) prog Q rest t) :
    Ends (cpu oem) prog Q (Code.pop r :: rest) s := by
  obtain ⟨hv, hs⟩ := h.pop
  refine .op (t := ((s.setEr 7 (s.er 7 + 4#32)).setEr r v).test v) ?_
    (hnext _ ((hs.set hr v).test v))
  simp [cpu, CodeOp.exec, Insn.exec, Operand.value, Ea.locate, Size.bytes, hv]

theorem ends_save {free : List ℕ} (h : Inside E (E.file free) stack s)
    (hroom : 4 * (stack.length + 1) ≤ E.room) (hr : r < 7 ∧ r ∉ free)
    (hnext : ∀ t, Inside E (E.file (r :: free)) (E.cpu.er r :: stack) t →
      Ends (cpu oem) prog Q rest t) :
    Ends (cpu oem) prog Q (Code.push r :: rest) s := by
  refine h.ends_push hroom (h.regs r _ (if_neg (not_or.mpr (hr.imp_left not_le.mpr)))) fun t ht =>
    hnext t (ht.mono fun r' v hv => ?_)
  rw [Entry.file] at hv ⊢
  split_ifs at hv with h'
  rw [if_neg fun hr' => h' (hr'.imp_right (List.mem_cons_of_mem r)), hv]

theorem ends_restore {free : List ℕ} (h : Inside E (E.file free) (E.cpu.er r :: stack) s)
    (hr : r ≠ 7) (hnext : ∀ t, Inside E (E.file (free.erase r)) stack t →
      Ends (cpu oem) prog Q rest t) :
    Ends (cpu oem) prog Q (Code.pop r :: rest) s := by
  refine h.ends_pop hr fun t ht => hnext t (ht.mono fun r' v hv => ?_)
  rw [Entry.file] at hv
  split_ifs at hv with h'
  by_cases hrr : r' = r
  · subst hrr
    rw [Function.update_self, hv]
  · rw [Function.update_of_ne hrr, Entry.file, if_neg, hv]
    exact fun hfree => h' (hfree.imp_right (List.mem_erase_of_ne hrr).mpr)

theorem ends_set (h : Inside E file stack s) (hr : r ≠ 7) {n : ℕ}
    (hnext : ∀ t, Inside E (Function.update file r (some (BitVec.ofNat 32 n))) stack t →
      Ends (cpu oem) prog Q rest t) :
    Ends (cpu oem) prog Q (Code.set r n :: rest) s := by
  refine .op (t := (s.setEr r (BitVec.ofNat 32 n)).test (BitVec.ofNat 32 n)) ?_
    (hnext _ ((h.set hr _).test _))
  simp [cpu, CodeOp.exec, Insn.exec, Operand.value]

theorem ends_move (h : Inside E file stack s) (hr : r ≠ 7) {r' : ℕ} (hv : s.er r' = v)
    (hnext : ∀ t, Inside E (Function.update file r (some v)) stack t →
      Ends (cpu oem) prog Q rest t) :
    Ends (cpu oem) prog Q (Code.move .long (.long r') (.long r) :: rest) s := by
  refine .op (t := (s.setEr r v).test v) ?_ (hnext _ ((h.set hr v).test v))
  simp [cpu, CodeOp.exec, Insn.exec, Operand.value, hv]

theorem ends_subLong (h : Inside E file stack s) (hr : r ≠ 7) {n : ℕ} (hv : s.er r = v)
    (hnext : ∀ t, Inside E (Function.update file r (some (v - BitVec.ofNat 32 n))) stack t →
      Ends (cpu oem) prog Q rest t) :
    Ends (cpu oem) prog Q
      (Code.insn .sub (some .long) (.immediate n 32) (.register (.long r)) :: rest) s := by
  refine .op (t := (s.setEr r (v - BitVec.ofNat 32 n)).compare v (BitVec.ofNat 32 n)) ?_
    (hnext _ ((h.set hr _).compare _ _))
  simp [cpu, CodeOp.exec, Insn.exec, Operand.value, hv]

theorem ends_clearLong (h : Inside E file stack s) (hr : r ≠ 7)
    (hnext : ∀ t, Inside E (Function.update file r (some 0)) stack t →
      Ends (cpu oem) prog Q rest t) :
    Ends (cpu oem) prog Q (Code.clear .long (.long r) :: rest) s := by
  refine .op (t := (s.setEr r 0).compare (s.er r) (s.er r)) ?_
    (hnext _ ((h.set hr 0).compare _ _))
  simp [cpu, CodeOp.exec, Insn.exec, Operand.value]

theorem ends_subs (h : Inside E file stack s) (hr : r ≠ 7) {n : ℕ} (hv : s.er r = v)
    (hnext : ∀ t, Inside E (Function.update file r (some (v - BitVec.ofNat 32 n))) stack t →
      Ends (cpu oem) prog Q rest t) :
    Ends (cpu oem) prog Q (Code.subs n r :: rest) s := by
  refine .op (t := s.setEr r (v - BitVec.ofNat 32 n)) ?_ (hnext _ (h.set hr _))
  simp [cpu, CodeOp.exec, Insn.exec, hv]

/-- Take a long word of stack and set it to a constant. -/
theorem ends_local (h : Inside E file stack s) (hroom : 4 * (stack.length + 1) ≤ E.room) (n : ℕ)
    (hnext : ∀ t, Inside E (Function.update file 2 (some (BitVec.ofNat 32 n)))
      (BitVec.ofNat 32 n :: stack) t → Ends (cpu oem) prog Q rest t) :
    Ends (cpu oem) prog Q (Code.subs 4 7 :: Code.set 2 n ::
      Code.insn .mov (some .long) (.register (.long 2)) (.address (.indirect (.long 7))) :: rest)
      s := by
  set v := BitVec.ofNat 32 n
  have hs := (h.push hroom v).set (r := 2) (by decide) v
  refine .op (t := s.setEr 7 (s.er 7 - 4#32)) ?_ (.op (t := ((s.setEr 7 (s.er 7 - 4#32)).setEr 2
    v).test v) ?_ (.op (t := (((s.setEr 7 (s.er 7 - 4#32)).setMem (store .long s.mem
      (addressOf (s.er 7 - 4#32)) v)).setEr 2 v).test v) ?_ (hnext _ (hs.test v))))
  · simp [cpu, CodeOp.exec, Insn.exec]
  · simp [cpu, CodeOp.exec, Insn.exec, Operand.value, v]
  · simp [cpu, CodeOp.exec, Insn.exec, Ea.locate]
    rfl

theorem ends_drop (h : Inside E file (v :: stack) s)
    (hnext : ∀ t, Inside E file stack t → Ends (cpu oem) prog Q rest t) :
    Ends (cpu oem) prog Q (Code.adds 4 :: rest) s := by
  refine .op (t := s.setEr 7 (s.er 7 + 4#32)) ?_ (hnext _ h.pop.2)
  simp [cpu, CodeOp.exec, Insn.exec]

theorem ends_compareLong (h : Inside E file stack s) {n : ℕ} (hv : s.er r = v)
    (hnext : ∀ t, Inside E file stack t → t.er r = v → t.zero = decide (v = BitVec.ofNat 32 n) →
      t.carry = decide (v < BitVec.ofNat 32 n) → Ends (cpu oem) prog Q rest t) :
    Ends (cpu oem) prog Q (Code.compareLong r n :: rest) s := by
  refine .op (t := s.compare v (BitVec.ofNat 32 n)) ?_ (hnext _ (h.compare _ _) hv ?_ rfl)
  · simp [cpu, CodeOp.exec, Insn.exec, Operand.value, hv]
  · rw [Cpu.compare, beq_eq_decide]

/-! ## Bytes -/

theorem ends_byte (h : Inside E file stack s) (hfile : file 2 = none) {o : CodeOp}
    (hx : o.exec oem s = .inl ((s.put (.byte 10) (byteValue b)).test (byteValue b)))
    (hnext : ∀ t, Inside E file stack t → t.get (.byte 10) = byteValue b → t.mem = s.mem →
      t.zero = decide (b = 0) → Ends (cpu oem) prog Q rest t) :
    Ends (cpu oem) prog Q (.op o :: rest) s := by
  have hput : Inside E file stack (s.put (.byte 10) (byteValue b)) :=
    h.put (x := .byte 10) (by decide) hfile _
  refine .op hx (hnext _ (hput.test _) (s.get_put_byte b 10) rfl ?_)
  rw [Cpu.test, beq_eq_decide]
  exact decide_eq_decide.mpr (byteValue_inj (c := 0))

theorem ends_loadByte (h : Inside E file stack s) (hfile : file 2 = none) {n : ℕ}
    (hn : BitVec.ofNat 24 n ∈ E.kept)
    (hnext : ∀ t, Inside E file stack t →
      t.get (.byte 10) = byteValue (E.cpu.mem (BitVec.ofNat 24 n)) → t.mem = s.mem →
        Ends (cpu oem) prog Q rest t) :
    Ends (cpu oem) prog Q (Code.loadByte n :: rest) s := by
  refine h.ends_byte (b := E.cpu.mem (BitVec.ofNat 24 n)) hfile ?_
    fun t ht hb hm _ => hnext t ht hb hm
  simp [CodeOp.exec, Insn.exec, Operand.value, Ea.locate, load_byte, h.mem _ hn]

theorem ends_clearByte (h : Inside E file stack s) {n : ℕ} (hn : n % 8 ≠ 7)
    (hfile : file (n % 8) = none)
    (hnext : ∀ t, Inside E file stack t → t.get (.byte n) = byteValue 0 →
      Ends (cpu oem) prog Q rest t) :
    Ends (cpu oem) prog Q (Code.clear .byte (.byte n) :: rest) s := by
  refine .op (t := (s.put (.byte n) (byteValue 0)).compare (s.get (.byte n)) (s.get (.byte n))) ?_
    (hnext _ ((h.put (x := .byte n) hn hfile _).compare _ _) (s.get_put_byte 0 n))
  simp only [cpu, CodeOp.exec, Insn.exec, Operand.value, BitVec.sub_self]
  rfl

theorem ends_cdbByte (h : Inside E file stack s) (hfile : file 2 = none)
    (hcdb : file 1 = some (E.cpu.er 1)) {i : ℕ} (hi : i < 2 ^ 15)
    (hkept : addressOf (E.cpu.er 1) + BitVec.ofNat 24 i ∈ E.kept)
    (hnext : ∀ t, Inside E file stack t → t.get (.byte 10) = byteValue (E.command i) →
      Ends (cpu oem) prog Q rest t) :
    Ends (cpu oem) prog Q (Code.cdbByte i :: rest) s := by
  refine h.ends_byte (b := E.command i) hfile ?_ fun t ht hb _ _ => hnext t ht hb
  have ha : (Ea.locate .byte s (.displacement (.long 1) i 16)).1 =
      addressOf (E.cpu.er 1) + BitVec.ofNat 24 i := by
    rw [Ea.locate, Cpu.get_long, h.regs 1 _ hcdb, addressOf_displacement _ hi]
  simp only [CodeOp.exec, Insn.exec, Operand.value, ha, load_byte, h.mem _ hkept]
  rfl

theorem ends_compareByte (h : Inside E file stack s) (hb : s.get (.byte 10) = byteValue b)
    (hnext : ∀ t, Inside E file stack t → t.get (.byte 10) = byteValue b →
      t.zero = decide (b = c) → t.carry = decide (b < c) → Ends (cpu oem) prog Q rest t) :
    Ends (cpu oem) prog Q (Code.compareByte c :: rest) s := by
  refine .op (t := s.compare (byteValue b) (byteValue c)) ?_
    (hnext _ (h.compare _ _) hb ?_ (decide_eq_decide.mpr byteValue_lt))
  · simp only [cpu, CodeOp.exec, Insn.exec, Operand.value, hb]
    rfl
  · rw [Cpu.compare, beq_eq_decide]
    exact decide_eq_decide.mpr byteValue_inj

theorem ends_andByte (h : Inside E file stack s) (hfile : file 2 = none)
    (hb : s.get (.byte 10) = byteValue b) (c : UInt8)
    (hnext : ∀ t, Inside E file stack t → t.zero = decide (b &&& c = 0) →
      Ends (cpu oem) prog Q rest t) :
    Ends (cpu oem) prog Q (Code.insn .and (some .byte) (.immediate c.toNat 8)
      (.register (.byte 10)) :: rest) s := by
  refine h.ends_byte (b := b &&& c) hfile ?_ fun t ht _ _ hz => hnext t ht hz
  rw [← byteValue_and]
  simp only [CodeOp.exec, Insn.exec, Operand.value, hb]
  rfl

theorem ends_storeByte (h : Inside E file stack s) (hv : s.er r = v)
    (hb : s.get (.byte 10) = byteValue b) {i : ℕ} (hi : i < 2 ^ 15)
    (hkept : addressOf v + BitVec.ofNat 24 i ∉ E.kept)
    (hown : addressOf v + BitVec.ofNat 24 i ∉ below (addressOf (E.cpu.er 7)) E.room)
    (hnext : ∀ t, Inside E file stack t → t.er = s.er →
      t.mem = s.mem.write (addressOf v + BitVec.ofNat 24 i) [b] → Ends (cpu oem) prog Q rest t) :
    Ends (cpu oem) prog Q (Code.storeByte r i :: rest) s := by
  have hcells : cells (addressOf v + BitVec.ofNat 24 i) 1 = {addressOf v + BitVec.ofNat 24 i} :=
    cells_one
  have hs : Inside E file stack (s.setMem (s.mem.write (addressOf v + BitVec.ofNat 24 i) [b])) :=
    h.write (hcells ▸ Set.disjoint_singleton_left.mpr hkept)
      (hcells ▸ Set.disjoint_singleton_left.mpr fun hx => hown (h.cells_subset_below hx))
  refine .op (t := (s.setMem (s.mem.write (addressOf v + BitVec.ofNat 24 i) [b])).test
    (byteValue b)) ?_ (hnext _ (hs.test _) rfl rfl)
  simp only [cpu, CodeOp.exec, Insn.exec, Ea.locate, Cpu.get_long, hv, addressOf_displacement _ hi,
    hb, store_byte]

/-- Leave for a label if the byte is one of some values. -/
theorem ends_matches (h : Inside E file stack s) (hb : s.get (.byte 10) = byteValue b)
    {vs : List UInt8} (hl : after l prog = some code)
    (hmatch : b ∈ vs → ∀ t, Inside E file stack t → Ends (cpu oem) prog Q code t)
    (hpass : b ∉ vs → ∀ t, Inside E file stack t → t.get (.byte 10) = byteValue b →
      Ends (cpu oem) prog Q rest t) :
    Ends (cpu oem) prog Q (vs.flatMap (fun v => [Code.compareByte v, .branch 7 l]) ++ rest) s := by
  induction vs generalizing s with
  | nil => exact hpass List.not_mem_nil s h hb
  | cons v vs ih =>
    refine h.ends_compareByte hb fun t ht hb hz _ => ?_
    refine ends_when hl hz (fun heq => ?_) fun hne => ?_
    · exact hmatch (heq ▸ List.mem_cons_self) t ht
    · refine ih ht hb (fun hmem => hmatch (List.mem_cons_of_mem v hmem)) fun hvs => hpass ?_
      exact List.not_mem_cons_of_ne_of_not_mem hne hvs

/-- Checks of the command go on when every byte is as expected. -/
theorem ends_checks (h : Inside E file stack s) (hfile : file 2 = none)
    (hcdb : file 1 = some (E.cpu.er 1)) {cs : List (ℕ × UInt8)}
    (hkept : ∀ c ∈ cs, c.1 < 2 ^ 15 ∧ addressOf (E.cpu.er 1) + BitVec.ofNat 24 c.1 ∈ E.kept)
    (hl : after l prog = some code)
    (hfail : (¬ ∀ c ∈ cs, E.command c.1 = c.2) →
      ∀ t, Inside E file stack t → Ends (cpu oem) prog Q code t)
    (hpass : (∀ c ∈ cs, E.command c.1 = c.2) →
      ∀ t, Inside E file stack t → Ends (cpu oem) prog Q rest t) :
    Ends (cpu oem) prog Q (Code.checks cs l ++ rest) s := by
  induction cs generalizing s with
  | nil => exact hpass (List.forall_mem_nil _) s h
  | cons c cs ih =>
    obtain ⟨hc, hcs⟩ := List.forall_mem_cons.mp hkept
    refine h.ends_cdbByte hfile hcdb hc.1 hc.2 fun t ht hb => ?_
    refine ht.ends_compareByte hb fun t ht _ hz _ => ?_
    refine ends_unless hl hz (fun hne => ?_) fun heq => ?_
    · exact hfail (fun hall => hne (hall c List.mem_cons_self)) t ht
    · refine ih ht hcs (fun hne => hfail fun hall => hne ?_) fun hall => hpass ?_
      · exact (List.forall_mem_cons.mp hall).2
      · exact List.forall_mem_cons.mpr ⟨heq, hall⟩

/-! ## Long words -/

theorem ends_loadLong (h : Inside E file stack s) (hr : r ≠ 7) (hfile : file r = none) {n : ℕ}
    (hn : cells (BitVec.ofNat 24 n) 4 ⊆ E.kept)
    (hnext : ∀ t, Inside E file stack t → t.er r = load .long E.cpu.mem (BitVec.ofNat 24 n) →
      Ends (cpu oem) prog Q rest t) :
    Ends (cpu oem) prog Q (Code.loadLong r n :: rest) s := by
  have hload : load .long s.mem (BitVec.ofNat 24 n) =
      load .long E.cpu.mem (BitVec.ofNat 24 n) :=
    load_congr fun x hx => h.mem x (hn hx)
  refine .op (t := (s.setEr r (load .long E.cpu.mem (BitVec.ofNat 24 n))).test
    (load .long E.cpu.mem (BitVec.ofNat 24 n))) ?_
    (hnext _ ((h.setEr hr hfile _).test _) Cpu.setEr_er_self)
  simp [cpu, CodeOp.exec, Insn.exec, Operand.value, Ea.locate, hload]

theorem ends_storeLong (h : Inside E file stack s) (hv : s.er r = v) {n : ℕ}
    (hn : cells (BitVec.ofNat 24 n) 4 ⊆ E.kept)
    (hnext : ∀ t, Inside (E.setMem (store .long E.cpu.mem (BitVec.ofNat 24 n) v)) file stack t →
      Ends (cpu oem) prog Q rest t) :
    Ends (cpu oem) prog Q (Code.storeLong r n :: rest) s := by
  refine .op (t := (s.setMem (store .long s.mem (BitVec.ofNat 24 n) v)).test v) ?_
    (hnext _ ((h.writeEntry hn).test v))
  simp [cpu, CodeOp.exec, Insn.exec, Ea.locate, hv]

theorem ends_test (h : Inside E file stack s) {x : Reg} {z : Size} (hx : x.index ≠ 7)
    (hfile : file x.index = none)
    (hnext : ∀ t, Inside E file stack t → t.zero = decide (s.get x = 0) →
      Ends (cpu oem) prog Q rest t) :
    Ends (cpu oem) prog Q (Code.move z x x :: rest) s := by
  refine .op (t := (s.put x (s.get x)).test (s.get x)) ?_ (hnext _ ((h.put hx hfile _).test _) ?_)
  · rfl
  · rw [Cpu.test, beq_eq_decide]

end Inside

end FreemkvUnlock.Renesas
