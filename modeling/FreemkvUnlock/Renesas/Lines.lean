import FreemkvUnlock.Renesas.Cpu

/-! # The hooks as listings

The same instruction sequences as are handed to the assembler, line by line as the processor runs
them. The addresses of the placed payload are arguments; with the placeholders for them the lines
are what is assembled.
-/

namespace FreemkvUnlock.Renesas

open Bytes Listing Protocol

abbrev Code := List (Line CodeOp UInt8 Label)

def item (H : H8) : Line CodeOp UInt8 Label → Except Fault Item
  | .op (.insn i) => instruction H i
  | .op (.call target) => emitAbs H 0x5e target
  | .op (.tail target) => emitAbs H 0x5a target
  | .label l => label l
  | .branch condition target => branch condition target

def Sites.fixture : Sites where
  vid := ⟨0xe28, 0x5b7700, 0x446b04, 0xffffed3c, 0xffffed20⟩
  readEngineState := 0x2c46
  schedulerDelay := 0x40ef76
  acquisition := ⟨0xa0a966, u32ToBeBytes 0x5bf4ac⟩
  reset := ⟨0xa0b6c8, u32ToBeBytes 0x5cf000⟩
  loaded := 0x2f86
  checked := 0x2f87
  result := 0x2f88
  securitySlot := 0x13b6
  securityTable := 0x5b8fe4
  tableLength := 860
  dispatcher := 0x5555a6
  buffers := (0x2a10, 0xa027f4)

namespace Code

/-! ## Single lines -/

def insn (name : Mnemonic) (size : Option Size) (source dest : Operand) : Line CodeOp UInt8 Label :=
  .op (.insn ⟨name, size, source, dest⟩)

def push (r : ℕ) : Line CodeOp UInt8 Label :=
  insn .mov (some .long) (.register (.long r)) (.address (.preDecrement (.long 7)))

def pop (r : ℕ) : Line CodeOp UInt8 Label :=
  insn .mov (some .long) (.address (.postIncrement (.long 7))) (.register (.long r))

def cdbByte (offset : ℕ) : Line CodeOp UInt8 Label :=
  insn .mov (some .byte) (.address (.displacement (.long 1) offset 16)) (.register (.byte 10))

def compareByte (value : UInt8) : Line CodeOp UInt8 Label :=
  insn .cmp (some .byte) (.immediate value.toNat 8) (.register (.byte 10))

def loadLong (r source : ℕ) : Line CodeOp UInt8 Label :=
  insn .mov (some .long) (.address (.absolute source 32)) (.register (.long r))

def storeLong (r dest : ℕ) : Line CodeOp UInt8 Label :=
  insn .mov (some .long) (.register (.long r)) (.address (.absolute dest 32))

def loadByte (source : ℕ) : Line CodeOp UInt8 Label :=
  insn .mov (some .byte) (.address (.absolute source 32)) (.register (.byte 10))

def storeByte (r offset : ℕ) : Line CodeOp UInt8 Label :=
  insn .mov (some .byte) (.register (.byte 10)) (.address (.displacement (.long r) offset 16))

def set (r value : ℕ) : Line CodeOp UInt8 Label :=
  insn .mov (some .long) (.immediate value 32) (.register (.long r))

def compareLong (r value : ℕ) : Line CodeOp UInt8 Label :=
  insn .cmp (some .long) (.immediate value 32) (.register (.long r))

def move (size : Size) (source dest : Reg) : Line CodeOp UInt8 Label :=
  insn .mov (some size) (.register source) (.register dest)

def clear (size : Size) (reg : Reg) : Line CodeOp UInt8 Label :=
  insn .sub (some size) (.register reg) (.register reg)

def adds (n : ℕ) : Line CodeOp UInt8 Label :=
  insn .adds (some .long) (.immediate n 0) (.register (.long 7))

def subs (n r : ℕ) : Line CodeOp UInt8 Label :=
  insn .subs (some .long) (.immediate n 0) (.register (.long r))

def rts : Line CodeOp UInt8 Label := insn .rts none .none .none

def call (target : ℕ) : Line CodeOp UInt8 Label := .op (.call target)

def tail (target : ℕ) : Line CodeOp UInt8 Label := .op (.tail target)

/-- Leave for `l` unless the bytes of the command at these offsets are these. -/
def checks (cs : List (ℕ × UInt8)) (l : Label) : Code :=
  cs.flatMap fun c => [cdbByte c.1, compareByte c.2, .branch 6 l]

/-! ## The Volume ID hook -/

section Vid

variable (sites : Sites) (helper invalid data policy : ℕ)

def vidGate : Code :=
  [push 2] ++ checks [(0, 0xad), (1, 1), (7, 0x80)] .vidOem ++
  [loadLong 2 sites.securitySlot, compareLong 2 policy, .branch 6 .vidOem,
    cdbByte 10, insn .and (some .byte) (.immediate 0x3f 8) (.register (.byte 10)),
    .branch 6 .vidInvalid, cdbByte 10, compareByte 0, .branch 6 .vidOem] ++
  checks [(2, 0), (3, 0), (4, 0), (5, 0), (6, 0), (11, 0)] .vidInvalid

def vidLength : Code :=
  [push 3, push 4,
    insn .mov (some .word) (.address (.displacement (.long 1) 8 16)) (.register (.word 3)),
    insn .extu (some .long) (.register (.long 3)) .none,
    compareLong 3 0, .branch 7 .vidEmpty, compareLong 3 36, .branch 5 .vidLength, set 3 36,
    .label .vidLength]

def vidCopy (source offset : ℕ) : Code :=
  [loadByte ((source + offset) % 2 ^ 32), storeByte 4 (offset + 4)]

def vidReply : Code :=
  [loadByte sites.vid.status,
    insn .and (some .byte) (.immediate 2 8) (.register (.byte 10)),
    .branch 7 .vidUnavailable, set 4 data] ++
  (List.range 16).flatMap (vidCopy sites.vid.source) ++
  [move .long (.long 4) (.long 2),
    insn .sub (some .long) (.immediate 0xa00000 32) (.register (.long 2)),
    push 3, clear .byte (.byte 9), call helper, adds 4, clear .byte (.byte 10)] ++
  (List.range' 4 16).map (storeByte 4) ++
  [.branch 0 .vidReturn]

def vidExits : Code :=
  [.label .vidEmpty, clear .byte (.byte 8),
    .label .vidReturn, pop 4, pop 3, pop 2, rts,
    .label .vidUnavailable, pop 4, pop 3,
    .label .vidInvalid, pop 2, call invalid,
    insn .mov (some .byte) (.immediate 1 8) (.register (.byte 8)), rts,
    .label .vidOem, pop 2, tail sites.vid.main]

def vid : Code :=
  vidGate sites policy ++ vidLength ++ vidReply sites helper data ++
    vidExits sites invalid

theorem vidWrapper_eq (H : H8) : vidWrapper H sites helper invalid = assembleItems H
    ((vid sites helper invalid vidDataMarker vidPolicyMarker).map (item H)) := by
  rw [vidWrapper, vid, List.map_append, List.map_append, List.map_append]
  rfl

end Vid

/-! ## The activation hook -/

section Activation

variable (main helper invalid : ℕ) (sites : Sites) (original reset : ℕ)

/-- Where a placed payload has its parts: the acquisition callbacks, the reply, the identity block,
and the policy table, both as the owner that is accepted and as the table that is installed. -/
structure Parts where
  acquisition : ℕ
  data : ℕ
  identity : ℕ
  ownedPolicy : ℕ
  policy : ℕ

def Parts.markers : Parts where
  acquisition := acquisitionMarker
  data := dataMarker
  identity := identityMarker
  ownedPolicy := ownedPolicyMarker
  policy := policyMarker

variable (parts : Parts)

def bytesFrom (cdb : List UInt8) (p : ℕ → Bool) : List (ℕ × UInt8) :=
  (cdb.zipIdx.filter fun b => p b.2).map fun b => (b.2, b.1)

def enter : Code := push 2 :: checks [(0, 0x3c), (1, 0x0e), (2, 0xc0), (3, 0xde)] .foundationOem

def requestGate : Code :=
  [cdbByte 4, compareByte Verb.identity.code, .branch 7 .identity] ++
  checks (bytesFrom (buildSetCdb .encryption stateOff) fun i => 4 ≤ i ∧ i ≠ 5 ∧ i ≠ 6) .invalid ++
  [cdbByte 5] ++
  [Feature.region, .unrestricted, .hrl].flatMap (fun feature =>
    [compareByte feature.code, .branch 7 .acknowledge]) ++
  [compareByte Feature.encryption.code, .branch 6 .invalid, cdbByte 6,
    compareByte stateOn, .branch 7 .transition, compareByte statePassthrough,
    .branch 7 .transition, compareByte stateOff, .branch 6 .invalid]

def waitReadIdle : Code :=
  [.label .transition] ++ (List.range 7).map push ++
  [move .long (.long 1) (.long 6), set 5 500,
    .label .waitReadIdle,
    loadByte sites.readEngineState, compareByte 0, .branch 7 .readIdle, compareByte 8,
    .branch 4 .readIdle, compareLong 5 0, .branch 7 .refused, set 0 10,
    call sites.schedulerDelay, move .word (.word 0) (.word 0), .branch 6 .refused, subs 1 5,
    .branch 0 .waitReadIdle,
    .label .readIdle, move .long (.long 6) (.long 1)]

def switchPolicy : Code :=
  [loadLong 2 sites.acquisition.cpuAddress, compareLong 2 original, .branch 6 .refused,
    loadLong 2 sites.reset.cpuAddress, compareLong 2 reset, .branch 6 .refused,
    loadLong 2 sites.securitySlot, compareLong 2 sites.securityTable, .branch 7 .ownedPolicy,
    compareLong 2 parts.ownedPolicy, .branch 6 .refused,
    .label .ownedPolicy, cdbByte 6, compareByte stateOff, .branch 6 .restorePolicy,
    set 2 parts.policy, storeLong 2 sites.securitySlot,
    set 2 parts.acquisition, storeLong 2 sites.acquisition.cpuAddress,
    .branch 0 .reinit,
    .label .restorePolicy, set 2 sites.securityTable, storeLong 2 sites.securitySlot]

/-- The long words that are copied into the buffers, each with where it goes. -/
def bufferCopies : List (ℕ × ℕ) :=
  [sites.buffers.1, sites.buffers.2].flatMap fun dest =>
    [0, 4, 8, 12].map fun offset => (0x10 + offset, (dest + offset) % 2 ^ 32)

def restoreRegisters : Code := (List.range 7).reverse.map pop

def reinitialize : Code :=
  [.label .reinit] ++
  (bufferCopies sites).flatMap (fun c => [loadLong 2 c.1, storeLong 2 c.2]) ++
  [subs 4 7, set 2 0x00cf0000,
    insn .mov (some .long) (.register (.long 2)) (.address (.indirect (.long 7))),
    move .long (.long 7) (.long 1), clear .long (.long 0), clear .long (.long 2),
    call sites.dispatcher, adds 4,
    set 2 original, storeLong 2 sites.acquisition.cpuAddress,
    move .byte (.byte 8) (.byte 8), .branch 6 .refused] ++ restoreRegisters

def answer : Code :=
  [.label .acknowledge, set 2 parts.data,
    .label .reply, push 3, set 3 64, push 3, clear .byte (.byte 9), call helper, adds 4, pop 3,
    pop 2, rts,
    .label .refused] ++ restoreRegisters ++
  [.branch 0 .invalid, .label .identity] ++
  checks (bytesFrom (buildIdentityCdb 64) fun i => 5 ≤ i) .invalid ++
  [set 2 parts.identity, .branch 0 .reply,
    .label .invalid, pop 2, call invalid,
    insn .mov (some .byte) (.immediate 1 8) (.register (.byte 8)), rts]

def oem : Code := [.label .foundationOem, pop 2, tail main]

def activation : Code :=
  enter ++ requestGate ++ waitReadIdle sites ++ switchPolicy sites original reset parts ++
    reinitialize sites original ++ answer helper invalid parts ++ oem main

theorem activationHook_eq (H : H8) : activationHook H main helper invalid sites original reset =
    (activation main helper invalid sites original reset .markers).map (item H) := by
  simp only [activationHook, activation, List.map_append]
  rfl

end Activation

end Code

end FreemkvUnlock.Renesas
