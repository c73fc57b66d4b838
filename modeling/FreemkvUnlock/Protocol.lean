import FreemkvUnlock.Scsi
import Mathlib.Algebra.Group.Nat.Defs

/-! # Wire protocol

Commands shared by flashed firmware and the runtime implementations, and the identity reply
from which the implementation and the requests it supports are read.
-/

namespace FreemkvUnlock.Protocol

/-! ## Wire constants -/

def readBufferOpcode : UInt8 := 0x3C
def knockMode : UInt8 := 0x0E
def knock : List UInt8 := [0xC0, 0xDE]

/-- The text "freemkv" that leads an identity reply. -/
def respMagic : List UInt8 := [0x66, 0x72, 0x65, 0x65, 0x6D, 0x6B, 0x76]

/-- Oldest firmware, major and minor, that is armed. -/
def minFwVersion : ℕ × ℕ := (0, 9)

/-- Length of the identity reply. -/
def memreadLen : ℕ := 64

def minAllocLen : ℕ := 64

def statePassthrough : UInt8 := 0xFF
def stateOff : UInt8 := 0x00
def stateOn : UInt8 := 0x01
def speedMax : UInt8 := stateOn
def regionFree : UInt8 := stateOn

/-- Reset mode that restores every feature to passthrough. -/
def resetToOem : UInt8 := 0xFF

inductive Verb
  | identity
  | set
  | get
  | reset
  deriving DecidableEq, Repr

def Verb.code : Verb → UInt8
  | identity => 0x01
  | set => 0x02
  | get => 0x03
  | reset => 0x04

inductive Feature
  | speed
  | region
  | unrestricted
  | hrl
  | encryption
  deriving DecidableEq, Repr

def Feature.code : Feature → UInt8
  | speed => 0x01
  | region => 0x02
  | unrestricted => 0x03
  | hrl => 0x05
  | encryption => 0x06

/-- Every exposed feature, in wire order. -/
def allFeatures : List Feature := [.speed, .region, .unrestricted, .hrl, .encryption]

/-! ## Command builders -/

/-- A ten-byte command over the knock frame. -/
def buildCdb (verb : Verb) (feature : Option Feature) (state : Option UInt8) (allocLen : ℕ) :
    List UInt8 :=
  [readBufferOpcode, knockMode] ++ knock ++
    [verb.code, (feature.map Feature.code).getD 0, state.getD 0,
      (allocLen >>> 8).toUInt8, allocLen.toUInt8, 0]

def buildSetCdb (feature : Feature) (state : UInt8) : List UInt8 :=
  buildCdb .set (some feature) (some state) minAllocLen

def buildGetCdb (feature : Feature) : List UInt8 := buildCdb .get (some feature) none minAllocLen

def buildResetCdb (mode : UInt8) : List UInt8 := buildCdb .reset none (some mode) minAllocLen

def buildIdentityCdb (allocLen : ℕ) : List UInt8 := buildCdb .identity none none allocLen

/-! ## Identity replies -/

/-- A parsed identity reply: the printable version token after the magic and a space. -/
structure FirmwareIdentity where
  version : List UInt8
  deriving DecidableEq, Repr

def isAsciiGraphic (b : UInt8) : Bool := 0x21 ≤ b && b ≤ 0x7E

def isAsciiDigit (b : UInt8) : Bool := 0x30 ≤ b && b ≤ 0x39

def parseDigits (s : List UInt8) : Option ℕ :=
  let n := s.foldl (fun n b => n * 10 + (b.toNat - 0x30)) 0
  if s ≠ [] ∧ s.all isAsciiDigit ∧ n < 2 ^ 32 then some n else none

/-- Parse a 32-bit number; a leading plus sign is accepted. -/
def parseU32 : List UInt8 → Option ℕ
  | 0x2B :: s => parseDigits s
  | s => parseDigits s

namespace FirmwareIdentity

def parse (bytes : List UInt8) : Option FirmwareIdentity :=
  if respMagic <+: bytes then
    match bytes.drop respMagic.length with
    | 0x20 :: rest => some ⟨rest.takeWhile isAsciiGraphic⟩
    | _ => some ⟨[]⟩
  else none

def majorMinor (id : FirmwareIdentity) : Option (ℕ × ℕ) :=
  match id.version.splitOn 0x2E with
  | major :: minor :: _ => do
    let major ← parseU32 major
    let minor ← parseU32 (minor.takeWhile isAsciiDigit)
    return (major, minor)
  | _ => none

/-- Whether the version is at least the oldest supported one, in dictionary order. -/
def isSupported (id : FirmwareIdentity) : Bool :=
  match id.majorMinor with
  | some (major, minor) =>
    minFwVersion.1 < major || minFwVersion.1 == major && minFwVersion.2 ≤ minor
  | none => false

end FirmwareIdentity

inductive Implementation
  | firmware
  | pioneerRuntime
  deriving DecidableEq, Repr

structure Capabilities where
  implementation : Implementation
  deriving DecidableEq, Repr

namespace Capabilities

def pioneerRuntime : Capabilities := ⟨.pioneerRuntime⟩

def supportsSet (c : Capabilities) (feature : Feature) (state : UInt8) : Bool :=
  match c.implementation with
  | .firmware => true
  | .pioneerRuntime =>
    feature != .speed &&
      (feature != .encryption || state ∈ [stateOff, stateOn, statePassthrough])

end Capabilities

structure ProtocolIdentity where
  identity : FirmwareIdentity
  capabilities : Capabilities
  deriving DecidableEq, Repr

def extensionOffset : ℕ := 32

/-- The text "FMCP", version five, runtime implementation, and its request bitmap. -/
def pioneerExtension : List UInt8 := [0x46, 0x4D, 0x43, 0x50, 0x05, 0x01, 0x6C, 0x00]

/-- A full-length reply of a supported version with no extension or the known one. -/
def ProtocolIdentity.parse (bytes : List UInt8) : Option ProtocolIdentity := do
  guard (bytes.length = memreadLen)
  let identity ← FirmwareIdentity.parse bytes
  guard identity.isSupported
  let tail := bytes.drop extensionOffset
  if tail.all (· == 0) then
    return ⟨identity, ⟨.firmware⟩⟩
  else if pioneerExtension <+: tail ∧ (tail.drop pioneerExtension.length).all (· == 0) then
    return ⟨identity, ⟨.pioneerRuntime⟩⟩
  else none

/-- The runtime's own identity reply: banner "freemkv 0.9.2", passthrough states, extension. -/
def pioneerIdentity : List UInt8 :=
  respMagic ++ [0x20, 0x30, 0x2E, 0x39, 0x2E, 0x32] ++ List.replicate 6 statePassthrough ++
    List.replicate 13 0 ++ pioneerExtension ++ List.replicate 24 0

end FreemkvUnlock.Protocol
