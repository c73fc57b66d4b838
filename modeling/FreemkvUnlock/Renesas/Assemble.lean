import FreemkvUnlock.Renesas.Discovery

/-! # Assembling the payload

The payload is the generated code followed by its tables and data, with the copy of the security
table at the end. Every address inside it is a relocation, filled in when the payload is placed.
-/

namespace FreemkvUnlock.Renesas

open Bytes Interaction Fallible Protocol

variable (P : Pioneer) (H : H8) (S : Survey)

def zeros (n : ℕ) : List UInt8 := List.replicate n 0

@[simp] theorem length_zeros (n : ℕ) : (zeros n).length = n := List.length_replicate

/-- The relocation of a placeholder that stands exactly once in the code. -/
def markerRelocation (code : List UInt8) (marker addend : ℕ) (controllerRelative : Bool) :
    Except Fault Relocation := do
  let offset ← okOr (H.find code (.word marker) 0) .other
  check (H.find code (.word marker) (offset + 1) = none) .other
  return ⟨offset, addend % 2 ^ 32, controllerRelative⟩

def assemble (main helper invalid : ℕ) (sites : Sites) (securityTable : List UInt8) :
    Except Fault Trampoline := do
  check (sites.acquisition.expected.length = 4) .other
  let original := fromBytesBe sites.acquisition.expected
  let reset ← okOr (P.readU32 sites.reset.expected 0) .other
  let code ← assembleItems H (activationHook H main helper invalid sites original reset)
  let callback := code.length
  let bytes := code ++ (← assembleItems H (acquisitionCallback H sites))
  let tableOffset := bytes.length % 2 ^ 32
  let bytes := bytes ++ zeros 40
  let temp := bytes.length
  let bytes := bytes ++ zeros 70
  let callbacks := [0x10, 0x1a, 0x24, 0x2e, 0x38, 0x42].map fun offset =>
    Relocation.mk (temp + offset) (callback % 2 ^ 32) false
  let data := bytes.length
  let bytes := bytes ++ zeros 64
  let identityData := bytes.length
  let bytes := bytes ++ pioneerIdentity
  let eligibilityCallback := bytes.length
  let bytes := bytes ++ (← assembleItems H (eligibilityStub H))
  let vidWrapperOffset := bytes.length % 2 ^ 32
  let vidCode ← vidWrapper H sites helper invalid
  let vidPointer ← okOr (H.find vidCode (.word vidDataMarker) 0) .other
  let bytes := bytes ++ vidCode
  let vidTableOffset := bytes.length % 2 ^ 32
  let bytes := bytes ++ zeros 40
  let vidData := bytes.length
  let bytes := bytes ++ [0, 0x22, 0, 0] ++ zeros 32
  let policy := bytes.length
  let vidPolicy ← okOr (H.find vidCode (.word vidPolicyMarker) 0) .other
  check (securityTable.length = sites.tableLength) .other
  let bytes := bytes ++ securityTable
  let markers ← [(acquisitionMarker, temp, false), (dataMarker, data, true),
    (identityMarker, identityData, true), (ownedPolicyMarker, policy, false),
    (policyMarker, policy, false)].mapM fun (marker, addend, controllerRelative) =>
      markerRelocation H code marker addend controllerRelative
  return {
    bytes := bytes
    alignment := 32
    wrapperOffset := 0
    tableOffset := tableOffset
    vidWrapperOffset := vidWrapperOffset
    vidTableOffset := vidTableOffset
    relocations := callbacks ++ [⟨vidWrapperOffset + vidPointer, vidData % 2 ^ 32, false⟩,
      ⟨vidWrapperOffset + vidPolicy, policy % 2 ^ 32, false⟩,
      ⟨policy + 0x100, eligibilityCallback % 2 ^ 32, false⟩] ++ markers }

/-- Discover the sites of an image and assemble the hook for them. -/
def build (image : List UInt8) : Except Fault (Trampoline × Sites) := do
  let layout ← P.inspect image
  let base ← okOr layout.imageBase .other
  let sites ← Sites.discover P H S image base
  let (main, helper, invalid) ← targets P S image
  writePaths P S image main helper
  let table := (sites.securityTable + 2 ^ 32 - base) % 2 ^ 32
  check (table + sites.tableLength ≤ image.length) .other
  let trampoline ← assemble P H main helper invalid sites
    (image.extract table (table + sites.tableLength))
  return (trampoline, sites)

def Pioneer.assembling : Pioneer := { P with build := Renesas.build P H S }

variable {P H S}

theorem build_ok {image : List UInt8} {t : Trampoline} {sites : Sites}
    (h : build P H S image = .ok (t, sites)) :
    ∃ base main helper invalid table, Sites.discover P H S image base = .ok sites ∧
      table.length ≤ image.length ∧ assemble P H main helper invalid sites table = .ok t := by
  obtain ⟨layout, -, h⟩ := except_bind_eq_ok_iff.mp h
  obtain ⟨base, -, h⟩ := except_bind_eq_ok_iff.mp h
  obtain ⟨sites', hsites, h⟩ := except_bind_eq_ok_iff.mp h
  obtain ⟨⟨main, helper, invalid⟩, -, h⟩ := except_bind_eq_ok_iff.mp h
  obtain ⟨_, -, h⟩ := except_bind_eq_ok_iff.mp h
  obtain ⟨_, hle, h⟩ := except_bind_eq_ok_iff.mp h
  obtain ⟨t', ht, h⟩ := except_bind_eq_ok_iff.mp h
  obtain ⟨rfl, rfl⟩ : t' = t ∧ sites' = sites := by simpa using Except.ok.inj h
  refine ⟨base, main, helper, invalid, _, hsites, ?_, ht⟩
  rw [List.extract_eq_take_drop, List.length_take, List.length_drop]
  omega

end FreemkvUnlock.Renesas
