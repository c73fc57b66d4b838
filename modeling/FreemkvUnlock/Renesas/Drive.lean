import FreemkvUnlock.Renesas.Backend
import FreemkvUnlock.Renesas.Plan

/-! # A drive that serves its memory

A drive whose diagnostic transfers act faithfully on its memory and whose commands are answered
by its firmware. Against it every access has one outcome, read off the memory.
-/

namespace FreemkvUnlock.Renesas

open Bytes Interaction Fallible Protocol

def fillBuffer (n : ℕ) (bs : List UInt8) : Vector UInt8 n :=
  ⟨⟨(bs ++ List.replicate n 0).take n⟩, by simp⟩

/-- Firmware: a command is answered with bytes or a check condition, and may change memory. -/
abbrev Respond : Type := List UInt8 → Memory → Option (List UInt8) × Memory

theorem toList_fillBuffer {n : ℕ} {bytes : List UInt8} (h : bytes.length = n) :
    (fillBuffer n bytes).toList = bytes := List.take_left' h

def memoryDrive (respond : Respond) : Handler Scsi Memory
  | .execute cdb _ data _, M =>
    (⟨.ok ⟨if (respond cdb M).1.isSome then 0 else 2, data.length, Vector.replicate 32 0⟩,
      fillBuffer data.length ((respond cdb M).1.getD [])⟩, (respond cdb M).2)
  | .executeCleanup _ _ data _, M =>
    (⟨.ok ⟨0, data.length, Vector.replicate 32 0⟩, fillBuffer data.length []⟩, M)
  | .pause _, M => (.ok (), M)
  | .beginCritical, M => (.ok (), M)
  | .endCritical, M => ((), M)
  | .now, M => ((0 : ℕ), M)
  | .fillBytes n, M => (fillBuffer n [], M)
  | .diagnosticMemory selector offset (.dataIn n), M =>
    match cpuAddress selector offset with
    | some a => (.ok ⟨⟨M.slice a n⟩, by simp⟩, M)
    | none => (.error .other, M)
  | .diagnosticMemory selector offset (.dataOut bytes), M =>
    match cpuAddress selector offset with
    | some a => (.ok (), M.overwrite a bytes)
    | none => (.error .other, M)
  | .quietDrive, M => (.verified, M)

/-! ## A sample drive -/

def samplePioneer : Pioneer where
  identityLen := 48
  vendorIdentity := [0x3C, 0x02, 0xF1, 0, 0, 0, 0, 0, 48, 0]
  knock := [0xF0, 0, 0, 0, 0, 0]
  readMemory a n := [0x3C, 0x02, 0xB0] ++ (u32ToBeBytes a).drop 1 ++ (u32ToBeBytes n).drop 1 ++ [0]
  readU32 bs i := if i + 4 ≤ bs.length then some (fromBytesBe (bs.extract i (i + 4))) else none
  sha256 _ := ""
  rangeNew a n := if a + n < 2 ^ 32 then .ok (.sized a n) else .error .other
  rangeFromBounds a b := .ok ⟨a, b⟩
  Entry := Unit
  entryRange _ _ _ := .ok none
  inspect _ := .ok ⟨some 0x410000, [⟨0xa80000, 0xa80010⟩], [[()]], [⟨0xa01000, 0xa02000⟩],
    [0xa00ffc]⟩
  readBufferSite _ _ := .ok ⟨0xe20, 0x410100, 0x410200, 0x410202, 0x410206⟩
  opcodeSite _ _ _ := .ok ⟨0xe24, 0x410140, 0x410200, 0x410202, 0x410206⟩
  freeRanges windows occupied _ := .ok (windows.filter fun w => ∀ o ∈ occupied, w.Disjoint o)
  build _ := .ok (⟨List.replicate 96 0x11, 32, 8, 0, 12, 40, [⟨84, 4, true⟩]⟩,
    ⟨⟨0xe28, 0x410180, 0x410204, 0, 0⟩, 0x2c46, 0x40ef76, ⟨0xa0a966, [0, 0, 0, 0]⟩,
      ⟨0xa0b6c8, [0, 0, 0, 0]⟩, 0x2f86, 0x2f87, 0x2f88, 0x13b6, 0x4101c0, 16, 0x410300,
      (0x2a10, 0xa027f4)⟩)
  rangeNew_eq h := by split_ifs at h; exact (Except.ok.inj h).symm
  rangeNew_ok _ h := if_pos h
  freeRanges_window h r hr := by
    obtain rfl := Except.ok.inj h
    exact ⟨r, (List.mem_filter.mp hr).1, Range.contains_refl r⟩
  freeRanges_disjoint h r hr := by
    obtain rfl := Except.ok.inj h
    simpa using (List.mem_filter.mp hr).2

/-- Memory of the sample drive: a firmware header, callbacks, a canary and the object slots. -/
def sampleMemory : Memory :=
  [(0x410000, normalMagic), (0x410014, u32ToBeBytes 0x1100),
    (0x410200, [0x54, 0x70, 0x18, 0x88, 0x54, 0x70]), (0xa00ffc, [0xa5, 0xa5]),
    (0xe20, u32ToBeBytes 0x410100), (0xe24, u32ToBeBytes 0x410140), (0xe28, u32ToBeBytes 0x410180),
    (0x13b6, u32ToBeBytes 0x4101c0)].foldl (fun M w => Memory.overwrite M w.1 w.2) fun _ => 0

/-- Firmware of the sample drive; a staged hook answers the identity command if `hooks`. -/
def sampleRespond (hooks : Bool) : Respond := fun cdb M =>
  if cdb.take 3 = [0x3C, 0x02, 0xB0] then
    (some (M.slice (fromBytesBe (cdb.extract 3 6)) (fromBytesBe (cdb.extract 6 9))), M)
  else if cdb = samplePioneer.knock then (some [], M)
  else if cdb = samplePioneer.vendorIdentity then
    (some (List.replicate renesasMarkerOffset 0 ++ renesasMarker), M)
  else if hooks ∧ M.slice 0xe20 4 = u32ToBeBytes 0xa01000 then
    if cdb = buildIdentityCdb memreadLen then (some pioneerIdentity, M)
    else if cdb = buildSetCdb .encryption stateOff then
      (some [], (M.overwrite 0x13b6 (u32ToBeBytes 0xa01050)).overwrite 0x2f86 [0, 1, 0])
    else (some [], M)
  else (none, M)

theorem sampleRespond_readMemory {hooks : Bool} {a n : ℕ} {M : Memory} (ha : a < 2 ^ 24)
    (hn : n < 2 ^ 24) :
    sampleRespond hooks (samplePioneer.readMemory a n) M = (some (M.slice a n), M) := by
  have haddr : (samplePioneer.readMemory a n).extract 3 6 = (u32ToBeBytes a).drop 1 := rfl
  have hsize : (samplePioneer.readMemory a n).extract 6 9 = (u32ToBeBytes n).drop 1 := rfl
  have hcode : (samplePioneer.readMemory a n).take 3 = [0x3C, 0x02, 0xB0] := rfl
  rw [sampleRespond, if_pos hcode, haddr, hsize, fromBytesBe_drop_u32ToBeBytes ha,
    fromBytesBe_drop_u32ToBeBytes hn]

/-- A drive whose commands are answered from the sample image, whatever its memory holds. -/
def romDrive : Handler Scsi Memory :=
  memoryDrive fun cdb M => ((sampleRespond false cdb sampleMemory).1, M)

/-- Preparation accepts the sample image, and the plan passes its ownership check. -/
theorem romDrive_checks : ∃ p planned checked M N,
    exec romDrive (prepare samplePioneer false).run sampleMemory = some (.ok p, planned, M) ∧
      exec romDrive (checkPrepared samplePioneer p false).run M = some (.ok (), checked, N) := by
  have h : ((exec romDrive (do
      let p ← prepare samplePioneer false
      checkPrepared samplePioneer p false : Hook Unit).run sampleMemory).map
        fun r => r.1.isOk) = some true := by decide +kernel
  obtain ⟨⟨r, τ, N⟩, he, hok⟩ := Option.map_eq_some_iff.mp h
  cases r with
  | error e => cases hok
  | ok u =>
    rcases exec_seq_some he with ⟨e, hr, -⟩ | ⟨p, planned, M, checked, hprepare, hcheck, -⟩
    · cases hr
    · exact ⟨p, planned, checked, M, N, hprepare, hcheck⟩

theorem run_prepare_sample :
    ∃ τ p, Run (prepare samplePioneer false).run τ (.ok p) := by
  obtain ⟨p, τ, _, _, _, h, -⟩ := romDrive_checks
  exact ⟨τ, p, run_of_exec h⟩

end FreemkvUnlock.Renesas
