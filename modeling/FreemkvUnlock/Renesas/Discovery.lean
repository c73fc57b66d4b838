import FreemkvUnlock.Renesas.Assembly
import FreemkvUnlock.Renesas.Hook

/-! # Site discovery

The sites of a firmware image: the security table with the slot that points to it, the Volume ID
registers with their callback slot, and the rest. The analyses that only hand over an address are
parameters.
-/

namespace FreemkvUnlock.Renesas

open Bytes Interaction Fallible

/-- The remaining analyses of an image; nothing is assumed of them. -/
structure Survey where
  memoryCall : List UInt8 → ℕ → ℕ → UInt8 → Bool → Except Fault ℕ
  controllerError : List UInt8 → ℕ → ℕ → Except Fault ℕ
  eligibilityState : List UInt8 → Except Fault (ℕ × ℕ × ℕ)
  loadedState : List UInt8 → ℕ → ℕ → Except Fault ℕ
  internalDispatcher : List UInt8 → ℕ → Except Fault ℕ
  verifyCf : List UInt8 → ℕ → ℕ → Except Fault Guard
  acquisitionGuard : List UInt8 → ℕ → Except Fault Guard
  activationBuffers : List UInt8 → Except Fault (ℕ × ℕ)
  verifyBufferOwner : List UInt8 → ℕ → ℕ → Guard → ℕ × ℕ → Except Fault Unit
  readEngineState : List UInt8 → Except Fault ℕ
  schedulerDelay : List UInt8 → Except Fault ℕ

variable (P : Pioneer) (H : H8) (S : Survey)

/-! ## Checked 32-bit arithmetic -/

def checkedSub (a b : ℕ) : Except Fault ℕ := do
  check (b ≤ a) .other
  return a - b

def checkedAdd (a b : ℕ) : Except Fault ℕ := do
  check (a + b < 2 ^ 32) .other
  return a + b

/-! ## Signatures -/

def uniqueSignatures (image : List UInt8) (patterns : List (List (ℕ × ℕ))) : Except Fault ℕ := do
  let found ← patterns.foldlM (fun found pattern =>
    match H.find image (.masked pattern) 0 with
    | none => pure found
    | some i => do
      check (found = none ∧ H.find image (.masked pattern) (i + 2) = none) .other
      pure (some i)) (none : Option ℕ)
  okOr found .other

def uniqueSignature (image : List UInt8) (pattern : List (ℕ × ℕ)) : Except Fault ℕ :=
  uniqueSignatures H image [pattern]

def exactLong (value : ℕ) : List (ℕ × ℕ) :=
  [(value / 2 ^ 16 % 2 ^ 16, 0xffff), (value % 2 ^ 16, 0xffff)]

def assignmentSignature (object : ℕ) : List (ℕ × ℕ) :=
  [(0x5e00, 0xff00), (0, 0), (0x0100, 0xffff), (0x6ba0, 0xffff)] ++ exactLong object

def accessorSignature : List (ℕ × ℕ) :=
  [(0x7a00, 0xffff), (0, 0), (0, 0), (0x5e00, 0xff00), (0, 0), (0x7a00, 0xffff), (0, 0), (0, 0),
    (0x5470, 0xffff)]

def slotAccessorSignature (slot : ℕ) : List (ℕ × ℕ) :=
  [(0x7a00, 0xffff), (0, 0), (0, 0), (0x5e00, 0xff00), (0, 0), (0x7a00, 0xffff)] ++
    exactLong slot ++ [(0x5470, 0xffff)]

def constructorSignature (objectSlot : ℕ) : List (ℕ × ℕ) :=
  [(0x7a00, 0xfff8), (0, 0), (0, 0), (0x0100, 0xffff), (0x6ba0, 0xfff8)] ++ exactLong objectSlot

def recordASignature : List (ℕ × ℕ) :=
  [(0x6df3, 0xffff), (0x18bb, 0xffff), (0xf802, 0xffff), (0x5e00, 0xff00), (0, 0),
    (0x5e00, 0xff00), (0, 0), (0xa821, 0xffff)]

def tableSignature (reg address : ℕ) : List (ℕ × ℕ) :=
  [(0x7a00 ||| reg, 0xffff)] ++ exactLong address ++ [(0x0100, 0xffff), (0x6980 ||| reg, 0xff8f)]

def initializerSignature (reg address : ℕ) : List (ℕ × ℕ) :=
  [(0x7a00 ||| reg, 0xffff)] ++ exactLong address ++
    [(0x0100, 0xffff), (0x6ba0 ||| reg, 0xffff), (0, 0), (0, 0)]

def vidSignature : List (ℕ × ℕ) :=
  [(0x6a08, 0xffff), (0, 0), (0x7718, 0xffff), (0x4400, 0xff00), (0x0c99, 0xffff),
    (0x4600, 0xff00), (0x7a00, 0xffff), (0, 0), (0, 0), (0x5e00, 0xff00), (0, 0),
    (0x1933, 0xffff), (0x7a06, 0xffff), (0, 0), (0, 0), (0x0d31, 0xffff), (0x1771, 0xffff),
    (0x0f90, 0xffff), (0x0ae0, 0xffff), (0x680c, 0xffff), (0x0f90, 0xffff), (0x0ad0, 0xffff),
    (0x688c, 0xffff)]

/-! ## The security table -/

/-- An OEM constructor stores this address as an object's table. -/
def isConstructed (image : List UInt8) (address : ℕ) : Bool :=
  (List.range 7).any fun reg => (H.find image (.masked (tableSignature reg address)) 0).isSome

/-- Walk the methods of the table up to the first one after which another table starts, which
is after the first 24 methods at the earliest. -/
def methodTableLength (image : List UInt8) (base table : ℕ) : List ℕ → Except Fault ℕ
  | [] => .error .other
  | method :: methods => do
    let stop := table + 16 + method * 10
    let callback ← okOr (P.readU32 image stop) .other
    check (callback = 0 ∨ 2 ∣ callback ∧ base ≤ callback ∧ callback - base < image.length) .other
    check (image.extract (stop - 6) stop = List.replicate 6 0) .other
    let next := stop + 4
    if method < 24 ∨ image.extract next (next + 16) ≠ List.replicate 16 0 then
      methodTableLength image base table methods
    else do
      let nextAddress ← checkedAdd base (← u32TryFrom next)
      if isConstructed H image nextAddress then return next - table
      else methodTableLength image base table methods

/-- Collect the slot from every match of an initializer; a second slot is an error. Each match
starts later than the one before, so a budget of the image's length and two is never used up. -/
def initializerSlot (image : List UInt8) (signature : List (ℕ × ℕ)) :
    ℕ → ℕ → Option ℕ → Except Fault (Option ℕ)
  | 0, _, _ => .error .other
  | fuel + 1, start, slot =>
    match H.find image (.masked signature) start with
    | none => .ok slot
    | some i => do
      check (slot = none) .other
      initializerSlot image signature fuel (i + 2) (P.readU32 image (i + 10))

def securitySlot (image : List UInt8) (tableAddress : ℕ) : Except Fault ℕ := do
  let slot ← (List.range 7).foldlM (fun slot reg =>
    initializerSlot P H image (initializerSignature reg tableAddress) (image.length + 2) 0 slot)
    (none : Option ℕ)
  let slot ← okOr slot .other
  check (writableRam slot 4 ∧ 2 ∣ slot) .other
  return slot

def securityLayout (image : List UInt8) (base object : ℕ) : Except Fault (ℕ × ℕ × ℕ) := do
  let assignment ← uniqueSignature H image (assignmentSignature object)
  let call ← okOr (P.readU32 image assignment) .other
  let accessor ← checkedSub (call % 2 ^ 24) base
  check (H.find image (.masked accessorSignature) accessor = some accessor) .other
  let objectSlot ← okOr (P.readU32 image (accessor + 12)) .other
  let constructor ← uniqueSignature H image (constructorSignature objectSlot)
  check (image[constructor + 1]?.map (· &&& 7) = image[constructor + 9]?.map (· &&& 7)) .other
  let table ← checkedSub (← okOr (P.readU32 image (constructor + 2)) .other) base
  let root ← checkedSub (← okOr (P.readU32 image (table + 0x100)) .other) base
  check (H.find image (.masked recordASignature) root = some root) .other
  let _ ← H.reachable image root
  check (image.extract table (table + 16) = List.replicate 16 0) .other
  let length ← methodTableLength P H image base table (List.range 256)
  let tableAddress ← checkedAdd base (← u32TryFrom table)
  let slot ← securitySlot P H image tableAddress
  return (slot, tableAddress, length)

/-- The object in the slot is the one the eligibility getter uses. -/
def verifySecurityObject (image : List UInt8) (base slot object : ℕ) : Except Fault Unit := do
  let stub ← uniqueSignature H image (slotAccessorSignature slot)
  let call ← abs H 0x5e (← checkedAdd base (← u32TryFrom stub))
  let i ← okOr (H.find image (.bytes (call ++ [1, 0, 0x6b, 0xa0] ++ u32ToBeBytes object)) 0) .other
  check (2 ∣ i) .other

/-! ## The Volume ID callback -/

def vidSites (image : List UInt8) (base : ℕ) : Except Fault VidSites := do
  let site ← P.opcodeSite image base 0xad
  let i ← uniqueSignature H image vidSignature
  let status ← okOr (H.readU16 image (i + 2)) .other
  let source ← okOr (P.readU32 image (i + 26)) .other
  check (0xe000 ≤ status ∧ 0xffffe000 ≤ source ∧ source ≤ 0xfffffff0) .other
  check (writableRam site.objectAddress 4) .other
  return ⟨site.objectAddress, site.tableAddress, site.mainAddress, 0xffff0000 ||| status, source⟩

/-! ## All sites -/

def Sites.discover (image : List UInt8) (base : ℕ) : Except Fault Sites := do
  let (checked, result, object) ← S.eligibilityState image
  let loaded ← S.loadedState image checked result
  let (securitySlot, securityTable, tableLength) ← securityLayout P H image base object
  verifySecurityObject H image base securitySlot object
  check (checked < 0x8000 ∧ result < 0x8000) .other
  let dispatcher ← S.internalDispatcher image base
  let reset ← S.verifyCf image base dispatcher
  let acquisition ← S.acquisitionGuard image base
  let buffers ← S.activationBuffers image
  S.verifyBufferOwner image base dispatcher acquisition buffers
  let vid ← vidSites P H image base
  let readEngineState ← S.readEngineState image
  let schedulerDelay ← S.schedulerDelay image
  return ⟨vid, readEngineState, schedulerDelay, acquisition, reset, loaded, checked, result,
    securitySlot, securityTable, tableLength, dispatcher, buffers⟩

/-- Addresses the hook calls: the OEM callback, the transfer helper and the error helper. -/
def targets (image : List UInt8) : Except Fault (ℕ × ℕ × ℕ) := do
  let layout ← P.inspect image
  let base ← okOr layout.imageBase .other
  let site ← hookSite P image base
  let helper ← S.memoryCall image base site.mainAddress 0x93 false
  let invalid ← S.controllerError image base helper
  return (site.mainAddress, helper, invalid)

/-- Both directions of the memory commands use the same helpers. -/
def writePaths (image : List UInt8) (main controllerHelper : ℕ) : Except Fault Unit := do
  let layout ← P.inspect image
  let base ← okOr layout.imageBase .other
  let write ← P.opcodeSite image base 0x3b
  check ((← S.memoryCall image base write.mainAddress 0x93 true) = controllerHelper) .other
  check ((← S.memoryCall image base write.mainAddress 0xb0 true) =
    (← S.memoryCall image base main 0xb0 false)) .other

/-! ## What discovery guarantees -/

variable {P H S} {image : List UInt8} {base : ℕ}

/-- The table ends after its first 24 methods at the earliest. -/
theorem methodTableLength_ge {table length : ℕ} {methods : List ℕ}
    (h : methodTableLength P H image base table methods = .ok length) : 0x104 ≤ length := by
  induction methods with
  | nil => cases h
  | cons method methods ih =>
    obtain ⟨_, -, h⟩ := except_bind_eq_ok_iff.mp h
    obtain ⟨_, -, h⟩ := except_bind_eq_ok_iff.mp h
    obtain ⟨_, -, h⟩ := except_bind_eq_ok_iff.mp h
    dsimp only at h
    split_ifs at h with hnext
    · exact ih h
    · obtain ⟨_, -, h⟩ := except_bind_eq_ok_iff.mp h
      obtain ⟨_, -, h⟩ := except_bind_eq_ok_iff.mp h
      split_ifs at h
      · obtain rfl := Except.ok.inj h
        omega
      · exact ih h

/-- The budget of the search does not matter. -/
theorem initializerSlot_add {signature : List (ℕ × ℕ)} {fuel start : ℕ} {slot : Option ℕ}
    (h : image.length < start + fuel) (k : ℕ) :
    initializerSlot P H image signature (fuel + k + 1) start slot =
      initializerSlot P H image signature (fuel + 1) start slot := by
  induction fuel generalizing start slot with
  | zero =>
    have hnone : H.find image (.masked signature) start = none := by
      by_contra hc
      obtain ⟨i, hi⟩ := Option.ne_none_iff_exists'.mp hc
      have := H.find_le hi
      omega
    rw [initializerSlot, initializerSlot, hnone]
  | succ fuel ih =>
    rw [initializerSlot, initializerSlot]
    cases hi : H.find image (.masked signature) start with
    | none => rfl
    | some i =>
      have := H.find_le hi
      dsimp only
      rw [Nat.add_right_comm, ih (by omega)]

theorem securitySlot_ok {tableAddress slot : ℕ}
    (h : securitySlot P H image tableAddress = .ok slot) : writableRam slot 4 = true := by
  obtain ⟨_, -, h⟩ := except_bind_eq_ok_iff.mp h
  obtain ⟨_, -, h⟩ := except_bind_eq_ok_iff.mp h
  obtain ⟨_, hw, h⟩ := except_bind_eq_ok_iff.mp h
  obtain rfl := Except.ok.inj h
  exact (check_eq_ok_iff.mp hw).1

theorem securityLayout_ok {object slot table length : ℕ}
    (h : securityLayout P H image base object = .ok (slot, table, length)) :
    writableRam slot 4 = true ∧ 0x104 ≤ length := by
  simp only [securityLayout, except_bind_eq_ok_iff] at h
  obtain ⟨_, -, _, -, _, -, _, -, _, -, _, -, _, -, _, -, _, -, _, -, _, -, _, -, _, -, _, -,
    length', hlength, _, -, _, -, slot', hslot, h⟩ := h
  obtain ⟨rfl, -, rfl⟩ : slot' = slot ∧ _ ∧ length' = length := by simpa using Except.ok.inj h
  exact ⟨securitySlot_ok hslot, methodTableLength_ge hlength⟩

theorem vidSites_ok {vid : VidSites} (h : vidSites P H image base = .ok vid) :
    writableRam vid.slot 4 = true := by
  obtain ⟨site, -, h⟩ := except_bind_eq_ok_iff.mp h
  obtain ⟨_, -, h⟩ := except_bind_eq_ok_iff.mp h
  obtain ⟨_, -, h⟩ := except_bind_eq_ok_iff.mp h
  obtain ⟨_, -, h⟩ := except_bind_eq_ok_iff.mp h
  obtain ⟨_, -, h⟩ := except_bind_eq_ok_iff.mp h
  obtain ⟨_, hw, h⟩ := except_bind_eq_ok_iff.mp h
  obtain rfl := Except.ok.inj h
  exact check_eq_ok_iff.mp hw

theorem Sites.discover_ok {sites : Sites} (h : Sites.discover P H S image base = .ok sites) :
    writableRam sites.vid.slot 4 = true ∧ writableRam sites.securitySlot 4 = true ∧
      0x104 ≤ sites.tableLength := by
  simp only [Sites.discover, except_bind_eq_ok_iff] at h
  obtain ⟨⟨checked, result, object⟩, -, _, -, ⟨slot, table, length⟩, hlayout, _, -, _, -, _, -,
    _, -, _, -, _, -, _, -, vid, hvid, _, -, _, -, h⟩ := h
  obtain rfl := Except.ok.inj h
  obtain ⟨hslot, hlength⟩ := securityLayout_ok hlayout
  exact ⟨vidSites_ok hvid, hslot, hlength⟩

end FreemkvUnlock.Renesas
