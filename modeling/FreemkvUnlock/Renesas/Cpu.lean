import FreemkvUnlock.Bytes.Wrapping
import FreemkvUnlock.Listing.Run
import FreemkvUnlock.Renesas.Assembly

/-! # What generated code does

The instructions the hooks are made of, as the H8S/2000 executes them: eight 32-bit registers, a
24-bit address space, and the two flags that the generated branches test. Firmware routines that a
hook calls are a parameter, and every call is recorded with the state it was made in.
-/

namespace FreemkvUnlock.Renesas

open Bytes Listing

abbrev Address := BitVec 24

structure Call where
  target : ℕ
  er : ℕ → BitVec 32
  mem : Store 24

structure Cpu where
  er : ℕ → BitVec 32
  zero : Bool
  carry : Bool
  mem : Store 24
  calls : List Call

inductive Exit
  | returned (s : Cpu)
  | jumped (target : ℕ) (s : Cpu)
  | fault

/-! ## Memory and registers -/

/-- Only the low 24 bits of a pointer select an address. -/
def addressOf (v : BitVec 32) : Address := v.setWidth 24

@[simp] def Size.bytes : Size → ℕ
  | .byte => 1
  | .word => 2
  | .long => 4

def load (z : Size) (m : Store 24) (a : Address) : BitVec 32 :=
  BitVec.ofNat 32 (fromBytesBe (m.read a z.bytes))

def store (z : Size) (m : Store 24) (a : Address) (v : BitVec 32) : Store 24 :=
  m.write a ((u32ToBeBytes v.toNat).drop (4 - z.bytes))

/-- The general register a name belongs to, and the lowest bit and the width of its part. -/
def Reg.index : Reg → ℕ
  | .byte n | .word n => n % 8
  | .long n => n

def Reg.low : Reg → ℕ
  | .byte n => if n < 8 then 8 else 0
  | .word n => if n < 8 then 0 else 16
  | .long _ => 0

def Reg.width : Reg → ℕ
  | .byte _ => 8
  | .word _ => 16
  | .long _ => 32

def Reg.mask (r : Reg) : BitVec 32 := (BitVec.allOnes r.width).setWidth 32

namespace Cpu

def setEr (s : Cpu) (n : ℕ) (v : BitVec 32) : Cpu := { s with er := Function.update s.er n v }

def setMem (s : Cpu) (m : Store 24) : Cpu := { s with mem := m }

def get (s : Cpu) (r : Reg) : BitVec 32 := s.er r.index >>> r.low &&& r.mask

def put (s : Cpu) (r : Reg) (v : BitVec 32) : Cpu :=
  s.setEr r.index (s.er r.index &&& ~~~(r.mask <<< r.low) ||| (v &&& r.mask) <<< r.low)

def test (s : Cpu) (v : BitVec 32) : Cpu := { s with zero := v == 0 }

def compare (s : Cpu) (x y : BitVec 32) : Cpu :=
  { s with zero := x == y, carry := decide (x < y) }

end Cpu

/-! ## Operands -/

/-- The address an addressing mode names, and the state after it moved its base register. -/
@[simp] def Ea.locate (z : Size) (s : Cpu) : Ea → Address × Cpu
  | .absolute value bits =>
    (if bits = 16 then (BitVec.ofNat 16 value).signExtend 24 else BitVec.ofNat 24 value, s)
  | .displacement base value _ =>
    (addressOf (s.get base + (BitVec.ofNat 16 value).signExtend 32), s)
  | .indirect base => (addressOf (s.get base), s)
  | .postIncrement base =>
    (addressOf (s.get base), s.put base (s.get base + BitVec.ofNat 32 z.bytes))
  | .preDecrement base =>
    (addressOf (s.get base - BitVec.ofNat 32 z.bytes),
      s.put base (s.get base - BitVec.ofNat 32 z.bytes))

@[simp] def Operand.value (z : Size) (s : Cpu) : Operand → BitVec 32 × Cpu
  | .none => (0, s)
  | .immediate value _ => (BitVec.ofNat 32 value, s)
  | .register r => (s.get r, s)
  | .address ea => (load z s.mem (ea.locate z s).1, (ea.locate z s).2)

/-! ## Instructions -/

inductive CodeOp
  | insn (i : Insn)
  | call (target : ℕ)
  | tail (target : ℕ)

/-- Instruction forms that no hook uses are faults. -/
@[simp] def Insn.exec (i : Insn) (s : Cpu) : Cpu ⊕ Exit :=
  match i with
  | ⟨.mov, some z, source, .register r⟩ =>
    .inl (((source.value z s).2.put r (source.value z s).1).test (source.value z s).1)
  | ⟨.mov, some z, .register r, .address ea⟩ =>
    .inl (((ea.locate z s).2.setMem (store z s.mem (ea.locate z s).1 (s.get r))).test (s.get r))
  | ⟨.cmp, some z, source, .register r⟩ => .inl (s.compare (s.get r) (source.value z s).1)
  | ⟨.and, some z, source, .register r⟩ =>
    .inl ((s.put r (s.get r &&& (source.value z s).1)).test (s.get r &&& (source.value z s).1))
  | ⟨.sub, some z, source, .register r⟩ =>
    .inl ((s.put r (s.get r - (source.value z s).1)).compare (s.get r) (source.value z s).1)
  | ⟨.adds, some .long, .immediate value _, .register r⟩ =>
    .inl (s.put r (s.get r + BitVec.ofNat 32 value))
  | ⟨.subs, some .long, .immediate value _, .register r⟩ =>
    .inl (s.put r (s.get r - BitVec.ofNat 32 value))
  | ⟨.extu, some .long, .register r, .none⟩ =>
    .inl ((s.put r (s.get r &&& 0xffff)).test (s.get r &&& 0xffff))
  | ⟨.rts, none, .none, .none⟩ => .inr (.returned s)
  | _ => .inr .fault

/-- The branch conditions of the hooks: always, carry clear, carry set, not equal, equal. -/
def holds (condition : UInt8) (s : Cpu) : Bool :=
  match condition with
  | 0 => true
  | 4 => !s.carry
  | 5 => s.carry
  | 6 => !s.zero
  | 7 => s.zero
  | _ => false

/-- What a firmware routine leaves behind when it returns. -/
abbrev Oem := ℕ → Cpu → Cpu

def Cpu.call (s : Cpu) (oem : Oem) (target : ℕ) : Cpu :=
  { oem target s with calls := s.calls ++ [⟨target, s.er, s.mem⟩] }

@[simp] def CodeOp.exec (oem : Oem) (o : CodeOp) (s : Cpu) : Cpu ⊕ Exit :=
  match o with
  | .insn i => i.exec s
  | .call target => .inl (s.call oem target)
  | .tail target => .inr (.jumped target s)

def cpu (oem : Oem) : Machine CodeOp UInt8 Cpu Exit := ⟨CodeOp.exec oem, holds⟩

/-! ## Register parts -/

theorem Reg.low_add_width_le (r : Reg) : r.low + r.width ≤ 32 := by
  cases r with
  | byte n => simp only [low, width]; split_ifs <;> decide
  | word n => simp only [low, width]; split_ifs <;> decide
  | long n => exact le_rfl

theorem Reg.getLsbD_mask (r : Reg) (i : ℕ) : r.mask.getLsbD i = decide (i < r.width) := by
  have := r.low_add_width_le
  rw [mask, BitVec.getLsbD_setWidth, BitVec.getLsbD_allOnes, Bool.and_eq_right_iff_imp,
    decide_eq_true_iff, decide_eq_true_iff]
  omega

namespace Cpu

variable {s : Cpu} {r : Reg} {n : ℕ} {v x y : BitVec 32}

@[simp] theorem setEr_er : (s.setEr n v).er = Function.update s.er n v := rfl

theorem setEr_er_self : (s.setEr n v).er n = v := by
  rw [setEr_er, Function.update_self]

theorem setEr_er_of_ne {k : ℕ} (h : k ≠ n) : (s.setEr n v).er k = s.er k := by
  rw [setEr_er, Function.update_of_ne h]

@[simp] theorem setEr_mem : (s.setEr n v).mem = s.mem := rfl

@[simp] theorem setEr_calls : (s.setEr n v).calls = s.calls := rfl

@[simp] theorem setMem_er {m : Store 24} : (s.setMem m).er = s.er := rfl

@[simp] theorem setMem_mem {m : Store 24} : (s.setMem m).mem = m := rfl

@[simp] theorem setMem_calls {m : Store 24} : (s.setMem m).calls = s.calls := rfl

@[simp] theorem put_mem : (s.put r v).mem = s.mem := rfl

@[simp] theorem put_calls : (s.put r v).calls = s.calls := rfl

@[simp] theorem test_er : (s.test v).er = s.er := rfl

@[simp] theorem test_mem : (s.test v).mem = s.mem := rfl

@[simp] theorem test_calls : (s.test v).calls = s.calls := rfl

@[simp] theorem compare_er : (s.compare x y).er = s.er := rfl

@[simp] theorem compare_mem : (s.compare x y).mem = s.mem := rfl

@[simp] theorem compare_calls : (s.compare x y).calls = s.calls := rfl

theorem put_er_of_ne (h : n ≠ r.index) : (s.put r v).er n = s.er n :=
  setEr_er_of_ne h

@[simp] theorem get_long : s.get (.long n) = s.er n := by
  have hmask : (Reg.long n).mask = BitVec.allOnes 32 := rfl
  rw [get, hmask, BitVec.and_allOnes]
  rfl

@[simp] theorem put_long : s.put (.long n) v = s.setEr n v := by
  have hmask : (Reg.long n).mask = BitVec.allOnes 32 := rfl
  rw [put, hmask, BitVec.and_allOnes]
  simp [Reg.index, Reg.low]

/-- A part reads back what fits of the value written to it. -/
theorem get_put : (s.put r v).get r = v &&& r.mask := by
  have := r.low_add_width_le
  rw [get, put, setEr_er, Function.update_self]
  refine BitVec.eq_of_getLsbD_eq fun i _ => ?_
  simp only [BitVec.getLsbD_and, BitVec.getLsbD_or, BitVec.getLsbD_not, BitVec.getLsbD_ushiftRight,
    BitVec.getLsbD_shiftLeft, Reg.getLsbD_mask]
  by_cases hi : i < r.width
  · have : r.low + i < 32 := by omega
    simp [hi, this]
  · simp [hi]

end Cpu

/-! ## Bytes -/

theorem load_congr {z : Size} {m m' : Store 24} {a : Address}
    (h : ∀ x ∈ cells a z.bytes, m x = m' x) : load z m a = load z m' a := by
  rw [load, load, Store.read_congr h]

def byteValue (b : UInt8) : BitVec 32 := BitVec.ofNat 32 b.toNat

theorem byteValue_inj {b c : UInt8} : byteValue b = byteValue c ↔ b = c := by
  refine ⟨fun h => UInt8.toNat_inj.mp ?_, congrArg byteValue⟩
  have := congrArg BitVec.toNat h
  simp only [byteValue, BitVec.toNat_ofNat] at this
  have := b.toNat_lt
  have := c.toNat_lt
  omega

theorem byteValue_lt {b c : UInt8} : byteValue b < byteValue c ↔ b < c := by
  have := b.toNat_lt
  have := c.toNat_lt
  rw [BitVec.lt_def, UInt8.lt_iff_toNat_lt, byteValue, byteValue, BitVec.toNat_ofNat,
    BitVec.toNat_ofNat, Nat.mod_eq_of_lt (by omega), Nat.mod_eq_of_lt (by omega)]

theorem byteValue_and (b c : UInt8) : byteValue b &&& byteValue c = byteValue (b &&& c) := by
  have := b.toNat_lt
  have := c.toNat_lt
  have h : b.toNat &&& c.toNat ≤ b.toNat := Nat.and_le_left
  apply BitVec.eq_of_toNat_eq
  simp only [byteValue, BitVec.toNat_and, BitVec.toNat_ofNat, UInt8.toNat_and]
  rw [Nat.mod_eq_of_lt (by omega), Nat.mod_eq_of_lt (by omega), Nat.mod_eq_of_lt (by omega)]

theorem load_byte (m : Store 24) (a : Address) : load .byte m a = byteValue (m a) := by
  rw [load, Size.bytes, Store.read_one, byteValue, fromBytesBe, List.foldl_cons, List.foldl_nil,
    Nat.zero_mul, Nat.zero_add]

theorem store_byte (m : Store 24) (a : Address) (b : UInt8) :
    store .byte m a (byteValue b) = m.write a [b] := by
  have hb : (byteValue b).toNat.toUInt8 = b := by
    have := b.toNat_lt
    rw [byteValue, BitVec.toNat_ofNat, Nat.mod_eq_of_lt (by omega), Nat.toUInt8_eq,
      UInt8.ofNat_toNat]
  exact congrArg (fun c => m.write a [c]) hb

theorem Cpu.get_put_byte (s : Cpu) (b : UInt8) (n : ℕ) :
    (s.put (.byte n) (byteValue b)).get (.byte n) = byteValue b := by
  have hmask : (Reg.byte n).mask = byteValue 255 := rfl
  rw [Cpu.get_put, hmask, byteValue_and]
  exact congrArg byteValue (UInt8.and_neg_one)

end FreemkvUnlock.Renesas
