import FreemkvUnlock.Bytes.BigEndian
import FreemkvUnlock.Bytes.Memory
import FreemkvUnlock.Scsi

/-! # Firmware facts

What is known about a Renesas firmware image: the memory profile derived from it, the sites the
hook patches, and the assembled hook. The image analyses of the Pioneer codec are parameters,
with the laws the installer relies on.
-/

namespace FreemkvUnlock.Renesas

open Bytes

structure Guard where
  cpuAddress : ℕ
  expected : List UInt8
  deriving DecidableEq

/-- The memory map an installation relies on. -/
structure Profile where
  normalAddress : ℕ
  normalLength : ℕ
  normalSha256 : String
  controllerCpuBase : ℕ
  pointerAddress : ℕ
  originalTable : ℕ
  writePointerAddress : ℕ
  writeOriginalTable : ℕ
  tableLength : ℕ
  mainCallbackOffset : ℕ
  reservedWindows : List Range
  occupied : List Range
  guards : List Guard
  ownershipEvidence : String
  writePathEvidence : String
  deriving DecidableEq

structure FreeSpace where
  cpu : Range
  length : ℕ
  controllerOffset : ℕ
  deriving DecidableEq

structure Relocation where
  offset : ℕ
  addend : ℕ
  controllerRelative : Bool
  deriving DecidableEq

/-- Assembled hook bytes with the offsets and relocations that place them. -/
structure Trampoline where
  bytes : List UInt8
  alignment : ℕ
  wrapperOffset : ℕ
  tableOffset : ℕ
  vidWrapperOffset : ℕ
  vidTableOffset : ℕ
  relocations : List Relocation
  deriving DecidableEq

structure VidSites where
  slot : ℕ
  table : ℕ
  main : ℕ
  status : ℕ
  source : ℕ
  deriving DecidableEq

structure Sites where
  vid : VidSites
  readEngineState : ℕ
  schedulerDelay : ℕ
  acquisition : Guard
  reset : Guard
  loaded : ℕ
  checked : ℕ
  result : ℕ
  securitySlot : ℕ
  securityTable : ℕ
  tableLength : ℕ
  dispatcher : ℕ
  buffers : ℕ × ℕ
  deriving DecidableEq

/-- The policy table is the tail of the payload; 32-bit and 64-bit arithmetic wrap. -/
def Sites.policyTable (sites : Sites) (base payloadLen : ℕ) : ℕ :=
  (base + (payloadLen + 2 ^ 64 - sites.tableLength)) % 2 ^ 32

/-! ## The Pioneer codec -/

structure Layout (Entry : Type) where
  imageBase : Option ℕ
  overlayRanges : List Range
  bufferTables : List (List Entry)
  structuralGaps : List Range
  globalCanaries : List ℕ

structure OpcodeSite where
  objectAddress : ℕ
  tableAddress : ℕ
  checkAddress : ℕ
  prepareAddress : ℕ
  mainAddress : ℕ

/-- Commands and image analyses supplied from outside. `build` is the site discovery and
assembly of the hook, which rests on the same analyses. -/
structure Pioneer where
  identityLen : ℕ
  vendorIdentity : List UInt8
  knock : List UInt8
  readMemory : ℕ → ℕ → List UInt8
  readU32 : List UInt8 → ℕ → Option ℕ
  sha256 : List UInt8 → String
  rangeNew : ℕ → ℕ → Except Fault Range
  rangeFromBounds : ℕ → ℕ → Except Fault Range
  Entry : Type
  entryRange : Entry → ℕ → ℕ → Except Fault (Option Range)
  inspect : List UInt8 → Except Fault (Layout Entry)
  readBufferSite : List UInt8 → ℕ → Except Fault OpcodeSite
  opcodeSite : List UInt8 → ℕ → UInt8 → Except Fault OpcodeSite
  freeRanges : List Range → List Range → ℕ → Except Fault (List Range)
  build : List UInt8 → Except Fault (Trampoline × Sites)
  /-- A new range covers exactly what it was asked for. -/
  rangeNew_eq : ∀ {a n r}, rangeNew a n = .ok r → r = Range.sized a n
  rangeNew_ok : ∀ {a n}, 0 < n → a + n < 2 ^ 32 → rangeNew a n = .ok (Range.sized a n)
  /-- Free ranges lie in the windows and meet nothing occupied. -/
  freeRanges_window : ∀ {windows occupied alignment rs}, freeRanges windows occupied alignment =
    .ok rs → ∀ r ∈ rs, ∃ w ∈ windows, w.Contains r
  freeRanges_disjoint : ∀ {windows occupied alignment rs}, freeRanges windows occupied alignment =
    .ok rs → ∀ r ∈ rs, ∀ o ∈ occupied, r.Disjoint o

end FreemkvUnlock.Renesas
