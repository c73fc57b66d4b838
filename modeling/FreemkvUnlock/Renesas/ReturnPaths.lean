import FreemkvUnlock.Renesas.Discovery

/-! # Return path checks

Two routines of an image must not return past certain instructions: the dispatcher not past its
register restoration, and the reset that the CF operation begins with not past the clearing of the
security cache. The code puts a return in place of these instructions and looks whether an
original return can still be reached.
-/

namespace FreemkvUnlock.Renesas

open Bytes Interaction Fallible

variable (P : Pioneer) (H : H8)

def mapped (image : List UInt8) (base : ℕ) : List UInt8 := List.replicate base 0 ++ image

def imageAddress (base i : ℕ) : ℕ := (base + i) % 2 ^ 32

def rtsCode : List UInt8 := [0x54, 0x70]

def IsRts (mem : List UInt8) (a : ℕ) : Prop := mem.extract a (a + 2) = rtsCode

instance (mem : List UInt8) (a : ℕ) : Decidable (IsRts mem a) := instDecidableEqList _ _

def putRts (mem : List UInt8) (a : ℕ) : List UInt8 := (mem.set a 0x54).set (a + 1) 0x70

/-! ## The dispatcher -/

def epilogue : List UInt8 :=
  [0x0c, 0xd8, 0x79, 0x17, 0x00, 0x20, 0x01, 0x20, 0x6d, 0x76, 0x01, 0x00, 0x6d, 0x73, 0x54, 0x70]

/-- The reachable addresses are sorted, so the binary search for an instruction of the epilogue
is membership. -/
def cutEpilogue (mem : List UInt8) (reachable : List ℕ) (state : ℕ × List UInt8) (address : ℕ) :
    Except Fault (ℕ × List UInt8) :=
  if ¬ IsRts mem address then .ok state
  else do
    let start ← checkedSub address 14
    check (mem.extract start (address + 2) = epilogue) .other
    check (∀ offset ∈ ([0, 2, 6, 10] : List ℕ), start + offset ∈ reachable) .other
    return (state.1 + 1, putRts state.2 start)

def verifyDispatcherReturns (image : List UInt8) (base entry : ℕ) : Except Fault Unit := do
  let mem := mapped image base
  let address := imageAddress base (← u32TryFrom entry)
  let reachable ← H.reachable mem address
  let (returns, cut) ← reachable.foldlM (cutEpilogue mem reachable) (0, mem)
  check (0 < returns) .other
  let bypass ← H.reachable cut address
  check (∀ a ∈ bypass, ¬ IsRts mem a) .other

/-! ## The operation table -/

def lookupSignature : List (ℕ × ℕ) :=
  [(0x17f0, 0xffff), (0x0f81, 0xffff), (0x1030, 0xffff), (0x0a90, 0xffff), (0x1030, 0xffff),
    (0x7a10, 0xffff), (0, 0), (0, 0), (0x5470, 0xffff)]

def operationLookup (image : List UInt8) (base : ℕ) : Except Fault (ℕ × ℕ) := do
  let i ← okOr (H.find image (.masked lookupSignature) 0) .other
  check (H.find image (.masked lookupSignature) (i + 2) = none) .other
  let table ← okOr (P.readU32 image (i + 12)) .other
  return (← checkedAdd base (← u32TryFrom i), table)

def slotInitializerSignature (register slot : ℕ) : List (ℕ × ℕ) :=
  [(0x7a00 ||| register, 0xffff), (0, 0), (0, 0), (0x0100, 0xffff), (0x6ba0 ||| register, 0xffff)]
    ++ exactLong slot

/-- CF disables preparation and cleanup in its dispatch entry; its optional methods need not be
present. -/
def callbackFields (flags : List UInt8) : List ℕ :=
  if flags = [0, 0] then [16] else [16, 26, 36, 46, 56, 66]

def callbackField (image : List UInt8) (base offset field : ℕ) : Except Fault Unit := do
  check (image.extract (offset + field - 6) (offset + field) = List.replicate 6 0) .other
  let callback ← okOr (P.readU32 image (offset + field)) .other
  check (2 ∣ callback ∧ base ≤ callback ∧ callback - base < image.length) .other

/-- Collect the table from every match of an initializer of the slot; a second one is an error.
Each match starts later than the one before, so a budget of the image's length and two is never
used up. -/
def operationTable (image : List UInt8) (base slot : ℕ) (flags : List UInt8) (register : ℕ) :
    ℕ → ℕ → Option ℕ → Except Fault (Option ℕ)
  | 0, _, _ => .error .other
  | fuel + 1, start, original =>
    match H.find image (.masked (slotInitializerSignature register slot)) start with
    | none => .ok original
    | some i => do
      let address ← okOr (P.readU32 image (i + 2)) .other
      let offset ← checkedSub address base
      (callbackFields flags).forM (callbackField P image base offset)
      check (original = none) .other
      operationTable image base slot flags register fuel (i + 2) (some address)

def operationGuard (image : List UInt8) (base operation : ℕ) (flags : List UInt8) :
    Except Fault Guard := do
  let (lookupAddress, table) ← operationLookup P H image base
  let entry ← checkedAdd (← checkedSub table base) (operation * 6)
  check (image.extract (entry + 4) (entry + 6) = flags) .other
  let slot ← okOr (P.readU32 image entry) .other
  check (2 ∣ slot ∧ writableRam slot 4) .other
  let caller := [0x69, 0x10] ++ (← abs H 0x5e lookupAddress) ++
    [0x0f, 0x86, 1, 0, 0x69, 1, 1, 0, 0x69, 0x10, 1, 0, 0x6f, 3, 0, 0x10]
  check (H.find image (.bytes caller) 0).isSome .other
  let original ← (List.range 7).foldlM (fun original register =>
    operationTable P H image base slot flags register (image.length + 2) 0 original)
    (none : Option ℕ)
  let original ← okOr original .other
  return ⟨slot, u32ToBeBytes original⟩

/-! ## The security cache -/

def eligibilityGetter (image : List UInt8) : Except Fault ℕ :=
  uniqueSignature H image
    [(0x0100, 0xffff), (0x6df3, 0xffff), (0x6a28, 0xffff), (0, 0), (0, 0), (0x4634, 0xffff),
      (0x0100, 0xffff), (0x6b23, 0xffff), (0, 0), (0, 0), (0x0100, 0xffff), (0x6930, 0xffff),
      (0x0100, 0xffff), (0x6f02, 0xffff), (0x0100, 0xffff), (0x0100, 0xffff), (0x6f00, 0xffff),
      (0x00fa, 0xffff), (0x0ab0, 0xffff), (0x5d20, 0xffff), (0x0c88, 0xffff), (0x4704, 0xffff),
      (0xf801, 0xffff), (0x4002, 0xffff), (0x1888, 0xffff), (0x6aa8, 0xffff), (0, 0), (0, 0),
      (0xf801, 0xffff), (0x6aa8, 0xffff), (0, 0), (0, 0), (0x6a28, 0xffff), (0, 0), (0, 0),
      (0x0100, 0xffff), (0x6d73, 0xffff), (0x5470, 0xffff)]

def cacheReset (image : List UInt8) : Except Fault ℕ :=
  uniqueSignature H image
    [(0x1888, 0xffff), (0x6aa8, 0xffff), (0, 0), (0, 0), (0x6aa8, 0xffff), (0, 0), (0, 0),
      (0x6aa8, 0xffff), (0, 0), (0, 0), (0x6aa8, 0xffff), (0, 0), (0, 0), (0x6aa8, 0xffff),
      (0, 0), (0, 0), (0x5470, 0xffff), (0x6a28, 0xffff), (0, 0), (0, 0), (0x5470, 0xffff)]

/-! ## The CF operation -/

inductive DecodedMnemonic
  | mov
  | sub
  | bne
  | other
  deriving DecidableEq

inductive DecodedOperand
  | none
  | immediate
  | byteRegister (r : ℕ)
  | pcRelative (value : ℤ)
  | other

structure DecodedInsn where
  mnemonic : DecodedMnemonic
  operands : List DecodedOperand
  length : ℕ

/-- The operand cannot change the stack pointer or leave the setup. -/
def DecodedOperand.keepsSetup (i length acquisition : ℕ) : DecodedOperand → Bool
  | .none | .immediate => true
  | .byteRegister r => r ≠ 7 ∧ r ≠ 15
  | .pcRelative value =>
    (i : ℤ) < i + length + value ∧ (i : ℤ) + length + value ≤ acquisition
  | .other => false

/-- Decode from `i` up to the acquisition call. No instruction is empty, so a budget of one more
than the distance is never used up. -/
def acquisitionSetup (decodeInsn : List UInt8 → Except Fault DecodedInsn) (image : List UInt8)
    (acquisition : ℕ) : ℕ → ℕ → Except Fault ℕ
  | 0, _ => .error .other
  | fuel + 1, i =>
    if acquisition ≤ i then .ok i
    else do
      let decoded ← decodeInsn (image.drop i)
      check (decoded.mnemonic ≠ .other) .other
      check (decoded.operands.all (·.keepsSetup i decoded.length acquisition)) .other
      acquisitionSetup decodeInsn image acquisition fuel (i + decoded.length)

def tailSignature : List (ℕ × ℕ) :=
  [(0x7901, 0xffff), (0x012b, 0xffff), (0x0f80, 0xff8f), (0x5e00, 0xff00), (0, 0),
    (0xf858, 0xffff), (0x5e00, 0xff00), (0, 0), (0x5e00, 0xff00), (0, 0), (0x0c88, 0xffff),
    (0x471a, 0xffff), (0x7901, 0xffff), (0x013d, 0xffff), (0x0f80, 0xff8f), (0x5e00, 0xff00),
    (0, 0), (0xa801, 0xffff), (0x460c, 0xffff), (0x7a00, 0xffff), (0, 0), (0, 0),
    (0x5e00, 0xff00), (0, 0), (0x4004, 0xffff), (0x1888, 0xffff), (0x4002, 0xffff),
    (0xf801, 0xffff), (0x7917, 0xffff), (0, 0), (0x0100, 0xffcf), (0x6d70, 0xfff8),
    (0x5470, 0xffff)]

def acquisitionSignature (descriptor : ℕ) (context : UInt8) (dispatcher : ℕ) : List (ℕ × ℕ) :=
  [(0x6ef9, 0xffff), (descriptor + 2, 0xffff), (0x0ff1, 0xffff), (0x7911, 0xffff),
    (descriptor, 0xffff), (0x0f80 ||| context.toNat * 16, 0xffff), (0x1aa2, 0xffff),
    (0x5e00 ||| dispatcher / 2 ^ 16 % 2 ^ 16, 0xffff), (dispatcher % 2 ^ 16, 0xffff),
    (0xa801, 0xffff), (0x4608, 0xffff), (0x7a00, 0xffff), (0, 0), (0, 0)]

def descriptorSignature (descriptor : ℕ) : List (ℕ × ℕ) :=
  [(0x7901, 0xffff), (0x013a, 0xffff), (0x6ff1, 0xffff), (descriptor, 0xffff)]

def callTarget (bytes : List UInt8) (i : ℕ) : Except Fault ℕ :=
  (· % 2 ^ 24) <$> okOr (P.readU32 bytes i) .other

def cfMain (image : List UInt8) (base : ℕ) (guard : Guard) : Except Fault ℕ := do
  let table ← okOr (P.readU32 guard.expected 0) .other
  okOr (P.readU32 image (table - base + 16)) .other

def cfReset (mem : List UInt8) (main : ℕ) : Except Fault ℕ := do
  check (mem[main + 10]? = some 0x5e) .other
  callTarget P mem (main + 10)

/-- The descriptor offset, the context register and the entry that fit the tail's frame and saved
registers. -/
def cfFrame (image : List UInt8) (tail : ℕ) : Except Fault (ℕ × UInt8 × List UInt8) := do
  let frame ← okOr (H.readU16 image (tail + 58)) .other
  let descriptor ← checkedSub frame 20
  let context : UInt8 := (image.getD (tail + 5) 0 >>> 4) &&& 7
  let saved : UInt8 := image.getD (tail + 61) 0
  check (image.getD (tail + 29) 0 = image.getD (tail + 5) 0 ∧
    image.getD (tail + 63) 0 = (0x74 : UInt8) + (saved >>> 4) ∧
    4 ≤ context ∧ context ≤ (4 : UInt8) + (saved >>> 4)) .other
  return (descriptor, context, [1, saved, 0x6d, 0xf4, 0x79, 0x37, (frame >>> 8).toUInt8,
    frame.toUInt8, 0x0f, 0x80 ||| context])

def cfAcquisition (image : List UInt8) (dispatcher descriptor : ℕ) (context : UInt8) :
    Except Fault (ℕ × ℕ) := do
  let acquisition ← uniqueSignature H image (acquisitionSignature descriptor context dispatcher)
  let start ← checkedSub acquisition 16
  let assignment ← uniqueSignature H (image.extract start acquisition)
    (descriptorSignature descriptor)
  return (assignment + start, acquisition)

/-- The reset calls the cache reset, and cannot return without it. -/
def verifyReset (image : List UInt8) (base reset : ℕ) : Except Fault Unit := do
  let mem := mapped image base
  let path ← H.reachable mem reset
  let call ← abs H 0x5e (imageAddress base (← cacheReset H image))
  check (∃ a ∈ path, mem.extract a (a + 4) = call) .other
  let cut := path.foldl (fun cut a =>
    if mem.extract a (a + 4) = call then putRts cut a else cut) mem
  let bypass ← H.reachable cut reset
  check (∀ a ∈ bypass, ¬ IsRts mem a) .other

/-- The CF operation prepares an acquisition, dispatches it and keeps its registers; its reset
clears the security cache. -/
def verifyCf (decodeInsn : List UInt8 → Except Fault DecodedInsn) (image : List UInt8)
    (base dispatcher : ℕ) : Except Fault Guard := do
  let guard ← operationGuard P H image base 0xcf [0, 0]
  let main ← cfMain P image base guard
  let tail ← uniqueSignature H image tailSignature
  let (descriptor, context, entry) ← cfFrame H image tail
  let (assignment, acquisition) ← cfAcquisition H image dispatcher descriptor context
  let target ← callTarget P image (tail + 16)
  check (target = imageAddress base (← eligibilityGetter H image)) .other
  check ((← callTarget P image (tail + 6)) = (← callTarget P image (tail + 30))) .other
  let mem := mapped image base
  let reachable ← H.reachable mem main
  check (∀ i ∈ [tail, assignment, acquisition], imageAddress base i ∈ reachable) .other
  let setup ← acquisitionSetup decodeInsn image acquisition (acquisition - (assignment + 8) + 1)
    (assignment + 8)
  check (setup = acquisition) .other
  check (mem.extract main (main + 10) = entry) .other
  verifyReset H image base (← cfReset P mem main)
  return guard

end FreemkvUnlock.Renesas
