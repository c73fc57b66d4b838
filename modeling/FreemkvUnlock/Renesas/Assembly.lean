import FreemkvUnlock.Interaction.Prog
import FreemkvUnlock.Protocol
import FreemkvUnlock.Renesas.Firmware

/-! # The generated code

The instruction sequences of the activation hook, the acquisition callback, the eligibility stub
and the Volume ID hook, as they are handed to the assembler. The assembler and the image search
of the H8 library are parameters.
-/

namespace FreemkvUnlock.Renesas

open Bytes Interaction Fallible Protocol

/-! ## The H8 library -/

inductive Size
  | byte
  | word
  | long

inductive Reg
  | byte (n : ℕ)
  | word (n : ℕ)
  | long (n : ℕ)

inductive Ea
  | absolute (value bits : ℕ)
  | displacement (base : Reg) (value bits : ℕ)
  | indirect (base : Reg)
  | postIncrement (base : Reg)
  | preDecrement (base : Reg)

inductive Operand
  | none
  | immediate (value bits : ℕ)
  | register (reg : Reg)
  | address (ea : Ea)

inductive Mnemonic
  | mov
  | cmp
  | and
  | sub
  | subs
  | adds
  | extu
  | rts
  | jsr
  | jmp

structure Insn where
  mnemonic : Mnemonic
  size : Option Size
  source : Operand
  dest : Operand

inductive Label
  | foundationOem
  | identity
  | invalid
  | acknowledge
  | transition
  | waitReadIdle
  | readIdle
  | refused
  | ownedPolicy
  | restorePolicy
  | reinit
  | reply
  | vidOem
  | vidInvalid
  | vidEmpty
  | vidLength
  | vidUnavailable
  | vidReturn
  deriving DecidableEq

inductive Item
  | instruction (bytes : List UInt8)
  | label (l : Label)
  | branch (condition : UInt8) (target : Label)

/-- What is searched for in an image: a 32-bit word, masked 16-bit words, or bytes. -/
inductive Needle
  | word (value : ℕ)
  | masked (pattern : List (ℕ × ℕ))
  | bytes (bs : List UInt8)
  deriving DecidableEq

/-- The assembler and the image search. -/
structure H8 where
  encodeInsn : Insn → Except Fault (List UInt8)
  finish : List Item → Except Fault (List UInt8)
  find : List UInt8 → Needle → ℕ → Option ℕ
  readU16 : List UInt8 → ℕ → Option ℕ
  reachable : List UInt8 → ℕ → Except Fault (List ℕ)
  /-- No instruction is longer than ten bytes. -/
  finish_length : ∀ {items bs}, finish items = .ok bs → bs.length ≤ 10 * items.length
  /-- A word is found where its big-endian bytes stand. -/
  find_word : ∀ {bs value start i}, find bs (.word value) start = some i →
    bs.extract i (i + 4) = u32ToBeBytes value
  /-- A search does not go back. -/
  find_le : ∀ {bs needle start i}, find bs needle start = some i → start ≤ i ∧ i ≤ bs.length

variable (H : H8)

/-! ## Single items -/

def instruction (insn : Insn) : Except Fault Item := .instruction <$> H.encodeInsn insn

def emitOp (name : Mnemonic) (size : Option Size) (source dest : Operand) : Except Fault Item :=
  instruction H ⟨name, size, source, dest⟩

def push (r : ℕ) : Except Fault Item :=
  emitOp H .mov (some .long) (.register (.long r)) (.address (.preDecrement (.long 7)))

def pop (r : ℕ) : Except Fault Item :=
  emitOp H .mov (some .long) (.address (.postIncrement (.long 7))) (.register (.long r))

/-- Load a byte of the command that the first argument points to. -/
def cdbByte (offset : ℕ) : Except Fault Item :=
  emitOp H .mov (some .byte) (.address (.displacement (.long 1) offset 16)) (.register (.byte 10))

def compareByte (value : UInt8) : Except Fault Item :=
  emitOp H .cmp (some .byte) (.immediate value.toNat 8) (.register (.byte 10))

def abs (opcode : UInt8) (addr : ℕ) : Except Fault (List UInt8) := do
  check (addr < 0x1000000 ∧ 2 ∣ addr) .other
  let mnemonic ← match opcode with
    | 0x5e => .ok Mnemonic.jsr
    | 0x5a => .ok Mnemonic.jmp
    | _ => .error .other
  let bytes ← H.encodeInsn ⟨mnemonic, none, .address (.absolute addr 24), .none⟩
  check (bytes.length = 4) .other
  return bytes

def emitAbs (opcode : UInt8) (addr : ℕ) : Except Fault Item := .instruction <$> abs H opcode addr

def label (l : Label) : Except Fault Item := .ok (.label l)

def branch (condition : UInt8) (target : Label) : Except Fault Item :=
  .ok (.branch condition target)

/-- Load a register with a value, or compare it for register numbers from 0x20. -/
def imm (r value : ℕ) : Except Fault Item := do
  check (r < 8 ∨ 0x20 ≤ r ∧ r < 0x28) .other
  instruction H ⟨if r < 8 then .mov else .cmp, some .long, .immediate value 32,
    .register (.long (r % 8))⟩

def storeLong (r at' : ℕ) : Except Fault Item :=
  emitOp H .mov (some .long) (.register (.long r)) (.address (.absolute at' 32))

def loadLong (r at' : ℕ) : Except Fault Item :=
  emitOp H .mov (some .long) (.address (.absolute at' 32)) (.register (.long r))

def move (size : Size) (source dest : Reg) : Except Fault Item :=
  emitOp H .mov (some size) (.register source) (.register dest)

/-- Clear a register by subtracting it from itself. -/
def clear (size : Size) (reg : Reg) : Except Fault Item :=
  emitOp H .sub (some size) (.register reg) (.register reg)

def rts : Except Fault Item := emitOp H .rts none .none .none

def dropLong : Except Fault Item :=
  emitOp H .adds (some .long) (.immediate 4 0) (.register (.long 7))

def restoreRegisters : List (Except Fault Item) := (List.range 7).reverse.map (pop H)

/-- The namespace gate: only commands that carry the knock stay. -/
def enter : List (Except Fault Item) :=
  [push H 2] ++ ([0x3c, 0x0e, 0xc0, 0xde] : List UInt8).zipIdx.flatMap fun (value, offset) =>
    [cdbByte H offset, compareByte H value, branch 6 .foundationOem]

/-- Everything else goes to the OEM callback. -/
def oem (main : ℕ) : List (Except Fault Item) :=
  [label .foundationOem, pop H 2, emitAbs H 0x5a main]

/-- Assemble a sequence. -/
def assembleItems (items : List (Except Fault Item)) : Except Fault (List UInt8) := do
  let items ← items.mapM id
  H.finish items

/-! ## Placeholders

Words that stand in the code for addresses known only once the payload is placed.
-/

def acquisitionMarker : ℕ := 0x00111110
def dataMarker : ℕ := 0x00333330
def identityMarker : ℕ := 0x00444440
def ownedPolicyMarker : ℕ := 0x00666660
def policyMarker : ℕ := 0x00777770
def vidDataMarker : ℕ := 0x00888880
def vidPolicyMarker : ℕ := 0x00999990

/-! ## The Volume ID hook -/

/-- Requests that are not a bare Volume ID read of an armed drive go to the OEM callback. -/
def vidGate (sites : Sites) : List (Except Fault Item) :=
  [push H 2] ++
  ([(0, 0xad), (1, 1), (7, 0x80)] : List (ℕ × UInt8)).flatMap (fun (offset, value) =>
    [cdbByte H offset, compareByte H value, branch 6 .vidOem]) ++
  [loadLong H 2 sites.securitySlot, imm H 0x22 vidPolicyMarker, branch 6 .vidOem,
    cdbByte H 10, emitOp H .and (some .byte) (.immediate 0x3f 8) (.register (.byte 10)),
    branch 6 .vidInvalid, cdbByte H 10, compareByte H 0, branch 6 .vidOem] ++
  [2, 3, 4, 5, 6, 11].flatMap (fun offset =>
    [cdbByte H offset, compareByte H 0, branch 6 .vidInvalid])

def vidLength : List (Except Fault Item) :=
  [push H 3, push H 4,
    emitOp H .mov (some .word) (.address (.displacement (.long 1) 8 16)) (.register (.word 3)),
    emitOp H .extu (some .long) (.register (.long 3)) .none,
    imm H 0x23 0, branch 7 .vidEmpty, imm H 0x23 36, branch 5 .vidLength, imm H 3 36,
    label .vidLength]

/-- Copy the Volume ID registers into the reply, send it, and wipe the copy. -/
def vidReply (sites : Sites) (helper : ℕ) : List (Except Fault Item) :=
  [emitOp H .mov (some .byte) (.address (.absolute sites.vid.status 32)) (.register (.byte 10)),
    emitOp H .and (some .byte) (.immediate 2 8) (.register (.byte 10)),
    branch 7 .vidUnavailable, imm H 4 vidDataMarker] ++
  (List.range 16).flatMap (fun offset =>
    [emitOp H .mov (some .byte) (.address (.absolute ((sites.vid.source + offset) % 2 ^ 32) 32))
      (.register (.byte 10)),
    emitOp H .mov (some .byte) (.register (.byte 10))
      (.address (.displacement (.long 4) (offset + 4) 16))]) ++
  [move H .long (.long 4) (.long 2),
    emitOp H .sub (some .long) (.immediate 0xa00000 32) (.register (.long 2)),
    push H 3, clear H .byte (.byte 9), emitAbs H 0x5e helper, dropLong H,
    clear H .byte (.byte 10)] ++
  (List.range' 4 16).map (fun offset => emitOp H .mov (some .byte) (.register (.byte 10))
    (.address (.displacement (.long 4) offset 16))) ++
  [branch 0 .vidReturn]

def vidExits (sites : Sites) (invalid : ℕ) : List (Except Fault Item) :=
  [label .vidEmpty, clear H .byte (.byte 8),
    label .vidReturn, pop H 4, pop H 3, pop H 2, rts H,
    label .vidUnavailable, pop H 4, pop H 3,
    label .vidInvalid, pop H 2, emitAbs H 0x5e invalid,
    emitOp H .mov (some .byte) (.immediate 1 8) (.register (.byte 8)), rts H,
    label .vidOem, pop H 2, emitAbs H 0x5a sites.vid.main]

def vidWrapper (sites : Sites) (helper invalid : ℕ) : Except Fault (List UInt8) :=
  assembleItems H (vidGate H sites ++ vidLength H ++ vidReply H sites helper ++
    vidExits H sites invalid)

/-! ## The activation hook -/

/-- Which request it is: identity, an acknowledged setting, or an encryption transition. -/
def requestGate : List (Except Fault Item) :=
  [cdbByte H 4, compareByte H Verb.identity.code, branch 7 .identity] ++
  ((buildSetCdb .encryption stateOff).zipIdx.filter
    (fun (_, offset) => 4 ≤ offset ∧ offset ≠ 5 ∧ offset ≠ 6)).flatMap (fun (value, offset) =>
      [cdbByte H offset, compareByte H value, branch 6 .invalid]) ++
  [cdbByte H 5] ++
  [Feature.region, .unrestricted, .hrl].flatMap (fun feature =>
    [compareByte H feature.code, branch 7 .acknowledge]) ++
  [compareByte H Feature.encryption.code, branch 6 .invalid, cdbByte H 6,
    compareByte H stateOn, branch 7 .transition, compareByte H statePassthrough,
    branch 7 .transition, compareByte H stateOff, branch 6 .invalid]

/-- Wait in OEM ticks until the read engine is idle: 500 rounds of ten ticks at most. -/
def waitReadIdle (sites : Sites) : List (Except Fault Item) :=
  [label .transition] ++ (List.range 7).map (push H) ++
  [move H .long (.long 1) (.long 6), imm H 5 500,
    label .waitReadIdle,
    emitOp H .mov (some .byte) (.address (.absolute sites.readEngineState 32))
      (.register (.byte 10)),
    compareByte H 0, branch 7 .readIdle, compareByte H 8, branch 4 .readIdle,
    imm H 0x25 0, branch 7 .refused, imm H 0 10, emitAbs H 0x5e sites.schedulerDelay,
    move H .word (.word 0) (.word 0), branch 6 .refused,
    emitOp H .subs (some .long) (.immediate 1 0) (.register (.long 5)),
    branch 0 .waitReadIdle,
    label .readIdle, move H .long (.long 6) (.long 1)]

/-- Check the guards and the owner of the policy slot, then point the slot at the policy or back
at the OEM table; the policy borrows the acquisition callback. -/
def switchPolicy (sites : Sites) (original reset : ℕ) : List (Except Fault Item) :=
  [loadLong H 2 sites.acquisition.cpuAddress, imm H 0x22 original, branch 6 .refused,
    loadLong H 2 sites.reset.cpuAddress, imm H 0x22 reset, branch 6 .refused,
    loadLong H 2 sites.securitySlot, imm H 0x22 sites.securityTable, branch 7 .ownedPolicy,
    imm H 0x22 ownedPolicyMarker, branch 6 .refused,
    label .ownedPolicy, cdbByte H 6, compareByte H stateOff, branch 6 .restorePolicy,
    imm H 2 policyMarker, storeLong H 2 sites.securitySlot,
    imm H 2 acquisitionMarker, storeLong H 2 sites.acquisition.cpuAddress,
    branch 0 .reinit,
    label .restorePolicy, imm H 2 sites.securityTable, storeLong H 2 sites.securitySlot]

/-- Reset the buffers as the firmware does, dispatch the operation, and give the borrowed
callback back. -/
def reinitialize (sites : Sites) (original : ℕ) : List (Except Fault Item) :=
  [label .reinit] ++
  [sites.buffers.1, sites.buffers.2].flatMap (fun dest =>
    [0, 4, 8, 12].flatMap fun offset =>
      [loadLong H 2 (0x10 + offset), storeLong H 2 ((dest + offset) % 2 ^ 32)]) ++
  [emitOp H .subs (some .long) (.immediate 4 0) (.register (.long 7)),
    imm H 2 0x00cf0000,
    emitOp H .mov (some .long) (.register (.long 2)) (.address (.indirect (.long 7))),
    move H .long (.long 7) (.long 1), clear H .long (.long 0), clear H .long (.long 2),
    emitAbs H 0x5e sites.dispatcher, dropLong H,
    imm H 2 original, storeLong H 2 sites.acquisition.cpuAddress,
    move H .byte (.byte 8) (.byte 8), branch 6 .refused] ++ restoreRegisters H

/-- Send the reply data or the identity block, or report an error. -/
def answer (helper invalid : ℕ) : List (Except Fault Item) :=
  [label .acknowledge, imm H 2 dataMarker,
    label .reply, push H 3, imm H 3 64, push H 3, clear H .byte (.byte 9),
    emitAbs H 0x5e helper, dropLong H, pop H 3, pop H 2, rts H,
    label .refused] ++ restoreRegisters H ++
  [branch 0 .invalid, label .identity] ++
  ((buildIdentityCdb 64).zipIdx.filter (fun (_, offset) => 5 ≤ offset)).flatMap
    (fun (value, offset) => [cdbByte H offset, compareByte H value, branch 6 .invalid]) ++
  [imm H 2 identityMarker, branch 0 .reply,
    label .invalid, pop H 2, emitAbs H 0x5e invalid,
    emitOp H .mov (some .byte) (.immediate 1 8) (.register (.byte 8)), rts H]

/-- The activation hook; only the activating operation exists. -/
def activationHook (main helper invalid : ℕ) (sites : Sites) (original reset : ℕ) :
    List (Except Fault Item) :=
  enter H ++ requestGate H ++ waitReadIdle H sites ++ switchPolicy H sites original reset ++
    reinitialize H sites original ++ answer H helper invalid ++ oem H main

/-- The acquisition callback marks the check as done and passed. -/
def acquisitionCallback (sites : Sites) : List (Except Fault Item) :=
  [emitOp H .mov (some .byte) (.immediate 1 8) (.register (.byte 10)),
    emitOp H .mov (some .byte) (.register (.byte 10)) (.address (.absolute sites.checked 16)),
    clear H .byte (.byte 10),
    emitOp H .mov (some .byte) (.register (.byte 10)) (.address (.absolute sites.result 16)),
    clear H .long (.long 0), rts H]

def eligibilityStub : List (Except Fault Item) := [clear H .long (.long 0), rts H]

end FreemkvUnlock.Renesas
