import FreemkvUnlock.Interaction.Prog
import FreemkvUnlock.Renesas.Firmware
import FreemkvUnlock.Unlocker

/-! # Installing the Renesas hook

Preparation derives a plan from the live firmware and writes nothing. Staging writes the payload
and then redirects the two object pointers to it; cleanup detaches both pointers and the policy
table before it gives the allocation back. Every step reads back what it wrote.
-/

namespace FreemkvUnlock.Renesas

open Bytes Interaction Fallible

abbrev Hook (α : Type) : Type := Fallible Scsi Fault α

def timeoutMs : ℕ := 10000

def maxPayload : ℕ := 65536

def commandError (e : ScsiError) : Fault := if isDeadBus e then .deadTransport else .other

/-- A machine-size length as a 32-bit number. -/
def u32TryFrom (n : ℕ) : Except Fault ℕ := do
  check (n < 2 ^ 32) .other
  return n

def copyInto (buffer : List UInt8) (offset : ℕ) (bytes : List UInt8) :
    Except Fault (List UInt8) := do
  check (offset + bytes.length ≤ buffer.length) .other
  return buffer.take offset ++ bytes ++ buffer.drop (offset + bytes.length)

structure CdbReply where
  status : UInt8
  transferred : ℕ
  data : List UInt8

/-- One raw command, with no retry or status masking. -/
def genericCdb (cdb : List UInt8) (direction : DataDirection) (data : List UInt8) :
    Hook CdbReply := do
  ensure (cdb.length ∈ [6, 10, 12, 16]) .other
  ensure (data.length ≤ 4096) .other
  ensure (direction ≠ .none ∨ data = []) .other
  let o ← ExceptT.lift (Scsi.execute cdb direction data timeoutMs)
  let r ← result (o.result.mapError commandError)
  ensure (r.bytesTransferred ≤ data.length) .other
  return ⟨r.status, r.bytesTransferred,
    if direction = .fromDevice then o.data.toList.take r.bytesTransferred else []⟩

variable (P : Pioneer)

/-! ## Memory access -/

def address (profile : Profile) (cpu length : ℕ) : Except Fault (UInt8 × ℕ) := do
  let r ← P.rangeNew cpu length
  if profile.controllerCpuBase ≤ cpu then do
    let offset := cpu - profile.controllerCpuBase
    check (offset + length < 2 ^ 32 ∧ offset + length ≤ 0x400000) .other
    pure (0x93, offset)
  else do
    check (r.stop ≤ 0x880000) .other
    pure (0xb0, cpu)

/-- Low memory or controller memory. -/
def writableRam (cpu length : ℕ) : Bool :=
  length ≠ 0 ∧ cpu + length < 2 ^ 32 ∧
    (0 < cpu ∧ cpu + length ≤ 0x8000 ∨ 0xa00000 ≤ cpu ∧ cpu + length ≤ 0xe00000)

def isDataOut : MemoryTransfer → Bool
  | .dataIn _ => false
  | .dataOut _ => true

/-- The checks of a transfer before it is issued; only RAM is written. -/
def transferTarget (profile : Profile) (cpu : ℕ) (data : MemoryTransfer) :
    Except Fault (UInt8 × ℕ) := do
  let total ← u32TryFrom data.length
  let _ ← address P profile cpu total
  check (isDataOut data = true → writableRam cpu total) .other
  address P profile cpu total

def memory (profile : Profile) (cpu : ℕ) (data : MemoryTransfer) : Hook data.Delivered := do
  let target ← result (transferTarget P profile cpu data)
  let delivered ← ExceptT.lift (Scsi.diagnosticMemory target.1 target.2 data)
  result delivered

def read (profile : Profile) (cpu length : ℕ) : Hook (List UInt8) := do
  ensure (0 < length ∧ length ≤ 0x400000) .other
  let bytes ← memory P profile cpu (.dataIn length)
  return bytes.toList

def write (profile : Profile) (cpu : ℕ) (bytes : List UInt8) : Hook Unit :=
  memory P profile cpu (.dataOut bytes)

def expect (profile : Profile) (cpu length : ℕ) (expected : List UInt8) : Hook Unit := do
  let bytes ← read P profile cpu length
  ensure (bytes = expected) .other

def checkGuard (profile : Profile) (guard : Guard) : Hook Unit := do
  ensure (guard.expected ≠ [] ∧ guard.expected.length ≤ 4096) .other
  expect P profile guard.cpuAddress guard.expected.length guard.expected

def checkGuards (profile : Profile) : Hook Unit := do
  ensure (profile.guards ≠ []) .other
  profile.guards.forM (checkGuard P profile)

/-! ## Discovery -/

/-- The command whose callbacks are hooked, with two callbacks checked byte by byte. -/
def hookSite (image : List UInt8) (base : ℕ) : Except Fault OpcodeSite := do
  let site ← P.readBufferSite image base
  let checkAt := (site.checkAddress + 2 ^ 32 - base) % 2 ^ 32
  let prepareAt := (site.prepareAddress + 2 ^ 32 - base) % 2 ^ 32
  check (image.extract checkAt (checkAt + 2) = [0x54, 0x70] ∧
    image.extract prepareAt (prepareAt + 4) = [0x18, 0x88, 0x54, 0x70]) .other
  return site

def ownershipEvidence : String :=
  "Derived global-data end: initializer copy end equals final 16-bit canary; " ++
    "upper bound is first OEM buffer; all recognized buffer maps excluded. " ++
    "Temporary allocation candidate, not a permanent RAM reservation."

def writePathEvidence : String :=
  "Address discovery only. The stock payload builders additionally validate READ/WRITE helper " ++
    "call relationships; this field is descriptive, not an authorization bypass."

/-- The memory profile of an image; no address database. -/
def discoverProfile (image : List UInt8) : Except Fault Profile := do
  let layout ← P.inspect image
  check (layout.structuralGaps ≠ []) .other
  let base ← okOr layout.imageBase .other
  let site ← hookSite P image base
  let write ← P.opcodeSite image base 0x3b
  let last ← okOr layout.globalCanaries.max? .other
  let globals ← P.rangeFromBounds 0xa00000 ((last + 2) % 2 ^ 32)
  let normalLength ← u32TryFrom image.length
  return {
    normalAddress := base
    normalLength := normalLength
    normalSha256 := P.sha256 image
    controllerCpuBase := 0xa00000
    pointerAddress := site.objectAddress
    originalTable := site.tableAddress
    writePointerAddress := write.objectAddress
    writeOriginalTable := write.tableAddress
    tableLength := 40
    mainCallbackOffset := 0x24
    reservedWindows := layout.structuralGaps
    occupied := layout.overlayRanges ++ [globals]
    guards := layout.globalCanaries.map fun a => ⟨a, [0xa5, 0xa5]⟩
    ownershipEvidence := ownershipEvidence
    writePathEvidence := writePathEvidence }

/-- The volatile vendor knock that enables diagnostic reads. -/
def enableDiagnosticReads : Hook Unit := do
  let reply ← genericCdb P.knock .none []
  ensure (reply.status = 0 ∧ reply.transferred = 0) .other

def normalMagic : List UInt8 := [0x50, 0x49, 0x4F, 0x4E, 0x45, 0x45, 0x52, 0x20]

/-- Read the rest of an `n`-byte image in chunks of at most 4096 bytes; every chunk adds a
byte, so a budget of `n + 1` rounds is never used up. -/
def loadBody (n : ℕ) : ℕ → List UInt8 → Hook (List UInt8)
  | 0, _ => ExceptT.mk .diverge
  | fuel + 1, image =>
    if image.length < n then do
      let len := min 4096 (n - image.length)
      let reply ← genericCdb (P.readMemory ((0x410000 + image.length) % 2 ^ 32) len) .fromDevice
        (List.replicate len 0)
      ensure (reply.status = 0 ∧ reply.transferred = len) .other
      loadBody n fuel (image ++ reply.data)
    else pure image

def loadNormal : Hook (List UInt8) := do
  let reply ← genericCdb (P.readMemory 0x410000 256) .fromDevice (List.replicate 256 0)
  ensure (reply.status = 0 ∧ reply.transferred = 256) .other
  ensure (normalMagic <+: reply.data) .other
  let n ← result (okOr (P.readU32 reply.data 20) .other)
  ensure (0x1100 ≤ n ∧ n ≤ 0x3f0000) .other
  loadBody P n (n + 1) []

/-! ## Choosing the allocation -/

def isBlank (s : String) : Bool := (trim s).isEmpty

def validate (profile : Profile) : Except Fault Unit := do
  check (¬ isBlank profile.ownershipEvidence) .other
  check (¬ isBlank profile.writePathEvidence) .other
  check (0x1100 ≤ profile.normalLength ∧ profile.normalLength ≤ 0x400000) .other
  check (profile.normalAddress + profile.normalLength ≤ 0x880000) .other
  check (profile.controllerCpuBase = 0xa00000) .other
  check (2 ∣ profile.pointerAddress ∧ profile.pointerAddress + 4 ≤ 0x8000) .other
  check (profile.tableLength = 40 ∧ profile.mainCallbackOffset = 0x24) .other
  check (2 ∣ profile.writePointerAddress ∧ profile.writePointerAddress + 4 ≤ 0x8000 ∧
    profile.writePointerAddress ≠ profile.pointerAddress) .other
  let normal ← P.rangeNew profile.normalAddress profile.normalLength
  let table ← P.rangeNew profile.originalTable profile.tableLength
  check (normal.Contains table) .other
  let writeTable ← P.rangeNew profile.writeOriginalTable profile.tableLength
  check (normal.Contains writeTable) .other
  let ram ← P.rangeNew profile.controllerCpuBase 0x400000
  check (profile.reservedWindows ≠ [] ∧
    ∀ w ∈ profile.reservedWindows, w.start < w.stop ∧ ram.Contains w) .other

def guardRange (guard : Guard) : Except Fault Range := do
  P.rangeNew guard.cpuAddress (← u32TryFrom guard.expected.length)

/-- All structurally free regions after the live firmware and its guards were checked. -/
def findFreeSpaces (profile : Profile) (alignment : ℕ) : Hook (List FreeSpace) := do
  result (validate P profile)
  let image ← read P profile profile.normalAddress profile.normalLength
  ensure (P.sha256 image = profile.normalSha256) .other
  let layout ← result (P.inspect image)
  ensure (layout.imageBase = some profile.normalAddress ∧ layout.overlayRanges ≠ [] ∧
    layout.bufferTables ≠ []) .other
  checkGuards P profile
  let derived ← result (discoverProfile P image)
  ensure (profile.pointerAddress = derived.pointerAddress ∧
    profile.originalTable = derived.originalTable ∧ profile.tableLength = derived.tableLength ∧
    profile.writePointerAddress = derived.writePointerAddress ∧
    profile.writeOriginalTable = derived.writeOriginalTable) .other
  ensure (∀ w ∈ profile.reservedWindows, ∃ d ∈ derived.reservedWindows, d.Contains w) .other
  checkGuards P derived
  let guarded ← result ((profile.guards ++ derived.guards).mapM (guardRange P))
  let buffers ← result (layout.bufferTables.flatten.filterMapM fun entry =>
    P.entryRange entry profile.controllerCpuBase 0x400000)
  let free ← result (P.freeRanges profile.reservedWindows
    (derived.occupied ++ profile.occupied ++ guarded ++ layout.overlayRanges ++ buffers) alignment)
  return free.map fun cpu => ⟨cpu, cpu.length, cpu.start - profile.controllerCpuBase⟩

def findFreeSpace (profile : Profile) (size alignment : ℕ) : Hook FreeSpace := do
  ensure (0 < size ∧ size ≤ maxPayload) .other
  let spaces ← findFreeSpaces P profile alignment
  let space ← result (okOr (spaces.find? fun space => size ≤ space.cpu.length) .other)
  let cpu ← result (P.rangeNew space.cpu.start size)
  return { space with cpu := cpu, length := size }

/-! ## Preparation -/

structure Prepared where
  profile : Profile
  sites : Sites
  allocation : Range
  original : List UInt8
  payload : List UInt8
  installedPointer : List UInt8
  vidInstalledPointer : List UInt8
  deriving DecidableEq

def Prepared.policyTable (p : Prepared) : ℕ :=
  p.sites.policyTable p.allocation.start p.payload.length

/-- The profile of an image extended by the sites' guards and reserved bytes. -/
def planProfile (image : List UInt8) (sites : Sites) : Except Fault Profile := do
  let profile ← discoverProfile P image
  let reserved ← [(sites.vid.slot, 4), (sites.securitySlot, 4), (sites.acquisition.cpuAddress, 4),
    (sites.reset.cpuAddress, 4), (sites.loaded, 1), (sites.checked, 1), (sites.result, 1),
    (sites.readEngineState, 1), (sites.buffers.1, 16), (sites.buffers.2, 16)].mapM
      fun (a, n) => P.rangeNew a n
  return { profile with
    guards := profile.guards ++ [sites.acquisition, sites.reset]
    occupied := profile.occupied ++ reserved }

def relocate (space : FreeSpace) (payload : List UInt8) (r : Relocation) :
    Except Fault (List UInt8) := do
  let base := if r.controllerRelative then space.controllerOffset else space.cpu.start
  check (base + r.addend < 2 ^ 32) .other
  copyInto payload r.offset (u32ToBeBytes (base + r.addend))

def hookedTable (table : List UInt8) (main : ℕ) : Except Fault (List UInt8) := do
  check (table.extract 0x14 0x18 = [0, 0, 0, 0] ∧ table.extract 0x1e 0x22 = [0, 0, 0, 0]) .other
  copyInto table 0x24 (u32ToBeBytes main)

/-- Derive the plan; `existing` says the hook is expected to be resident already. -/
def prepare (existing : Bool) : Hook Prepared := do
  enableDiagnosticReads P
  let image ← loadNormal P
  let (trampoline, sites) ← result (P.build image)
  let profile ← result (planProfile P image sites)
  let space ← findFreeSpace P profile (trampoline.bytes.length % 2 ^ 32) trampoline.alignment
  let start := space.cpu.start
  let installedPointer := u32ToBeBytes ((start + trampoline.tableOffset) % 2 ^ 32)
  let vidInstalledPointer := u32ToBeBytes ((start + trampoline.vidTableOffset) % 2 ^ 32)
  expect P profile profile.pointerAddress 4
    (if existing then installedPointer else u32ToBeBytes profile.originalTable)
  expect P profile profile.writePointerAddress 4 (u32ToBeBytes profile.writeOriginalTable)
  expect P profile sites.vid.slot 4
    (if existing then vidInstalledPointer else u32ToBeBytes sites.vid.table)
  let table ← read P profile profile.originalTable 40
  let table ← result (hookedTable table ((start + trampoline.wrapperOffset) % 2 ^ 32))
  let payload ← result (trampoline.relocations.foldlM (relocate space) trampoline.bytes)
  let payload ← result (copyInto payload trampoline.tableOffset table)
  let vidTable ← read P profile sites.vid.table 40
  let vidTable ← result (hookedTable vidTable ((start + trampoline.vidWrapperOffset) % 2 ^ 32))
  let payload ← result (copyInto payload trampoline.vidTableOffset vidTable)
  let original ← read P profile start (payload.length % 2 ^ 32)
  expect P profile start (payload.length % 2 ^ 32) original
  ensure (existing = true → original = payload) .other
  let security ← read P profile sites.securitySlot 4
  ensure (security = u32ToBeBytes sites.securityTable ∨ existing = true ∧
    security = u32ToBeBytes (sites.policyTable start payload.length)) .other
  return ⟨profile, sites, space.cpu, original, payload, installedPointer, vidInstalledPointer⟩

/-! ## Checks and the write transaction -/

def verifyState (p : Prepared) : Hook Unit := do
  expect P p.profile p.sites.loaded 1 [0]
  expect P p.profile p.sites.checked 1 [1]
  expect P p.profile p.sites.result 1 [0]

/-- Give the policy slot its original table back; a foreign value is left alone. -/
def restorePolicy (p : Prepared) : Hook Unit := do
  let current ← read P p.profile p.sites.securitySlot 4
  let original := u32ToBeBytes p.sites.securityTable
  let installed := u32ToBeBytes p.policyTable
  ensure (current = original ∨ current = installed) .other
  if current = installed then do
    write P p.profile p.sites.securitySlot original
    expect P p.profile p.sites.securitySlot 4 original

/-- Detach both pointers, check what must be untouched, restore the policy, then free. -/
def cleanup (p : Prepared) : Hook Unit := do
  let pointer := u32ToBeBytes p.profile.originalTable
  write P p.profile p.profile.pointerAddress pointer
  expect P p.profile p.profile.pointerAddress 4 pointer
  let vidOriginal := u32ToBeBytes p.sites.vid.table
  write P p.profile p.sites.vid.slot vidOriginal
  expect P p.profile p.sites.vid.slot 4 vidOriginal
  expect P p.profile p.profile.writePointerAddress 4 (u32ToBeBytes p.profile.writeOriginalTable)
  checkGuards P p.profile
  restorePolicy P p
  write P p.profile p.allocation.start p.original
  expect P p.profile p.allocation.start (p.original.length % 2 ^ 32) p.original

/-- Recheck all ownership immediately before the first write. -/
def checkPrepared (p : Prepared) (existing : Bool) : Hook Unit := do
  checkGuards P p.profile
  let security ← read P p.profile p.sites.securitySlot 4
  ensure (security = u32ToBeBytes p.sites.securityTable ∨ existing = true ∧
    security = u32ToBeBytes p.policyTable) .other
  expect P p.profile p.profile.pointerAddress 4
    (if existing then p.installedPointer else u32ToBeBytes p.profile.originalTable)
  expect P p.profile p.profile.writePointerAddress 4 (u32ToBeBytes p.profile.writeOriginalTable)
  expect P p.profile p.sites.vid.slot 4
    (if existing then p.vidInstalledPointer else u32ToBeBytes p.sites.vid.table)
  expect P p.profile p.allocation.start (p.original.length % 2 ^ 32) p.original

/-- Write the payload, then redirect the Volume ID pointer and the main pointer to it. -/
def stage (p : Prepared) : Hook Unit := do
  write P p.profile p.allocation.start p.payload
  expect P p.profile p.allocation.start (p.payload.length % 2 ^ 32) p.payload
  write P p.profile p.sites.vid.slot p.vidInstalledPointer
  expect P p.profile p.sites.vid.slot 4 p.vidInstalledPointer
  write P p.profile p.profile.pointerAddress p.installedPointer
  expect P p.profile p.profile.pointerAddress 4 p.installedPointer

def verifyResident (p : Prepared) : Hook Unit := do
  expect P p.profile p.sites.securitySlot 4 (u32ToBeBytes p.policyTable)
  checkGuards P p.profile
  expect P p.profile p.profile.pointerAddress 4 p.installedPointer
  expect P p.profile p.sites.vid.slot 4 p.vidInstalledPointer
  expect P p.profile p.profile.writePointerAddress 4 (u32ToBeBytes p.profile.writeOriginalTable)
  expect P p.profile p.allocation.start (p.payload.length % 2 ^ 32) p.payload

/-- A failed preparation is fatal when the hook is resident or the transport died. -/
def preparationError (existing : Bool) (e : Fault) : UnlockError :=
  if existing ∨ e = .deadTransport then .transport else .notApplicable

def transactionError (_ : Fault) : UnlockError := .transport

end FreemkvUnlock.Renesas
