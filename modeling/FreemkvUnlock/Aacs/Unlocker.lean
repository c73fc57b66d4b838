import FreemkvUnlock.Aacs.Handshake
import FreemkvUnlock.Firmware
import FreemkvUnlock.Vid

/-! # The host-certificate unlocker

The fallback for a drive without a vendor unlock: the certificate handshake under the licensing
administrator's own anchors, after an optional arming of freemkv firmware.
-/

namespace FreemkvUnlock.Aacs

open Interaction Fallible Firmware

/-- The P-256 path is off at this boundary. -/
def aacs2P256Experimental : Bool := false

/-- Public keys of the licensing administrator on both curves. -/
def licensingAnchors : Anchors where
  v1X := #v[0x63, 0xC2, 0x1D, 0xFF, 0xB2, 0xB2, 0x79, 0x8A, 0x13, 0xB5, 0x8D, 0x61, 0x16, 0x6C,
    0x4E, 0x4A, 0xAC, 0x8A, 0x07, 0x72]
  v1Y := #v[0x13, 0x7E, 0xC6, 0x38, 0x81, 0x8F, 0xD9, 0x8F, 0xA4, 0xC3, 0x0B, 0x99, 0x67, 0x28,
    0xBF, 0x4B, 0x91, 0x7F, 0x6A, 0x27]
  v2X := #v[0xDC, 0x88, 0x52, 0xA0, 0xA7, 0xF0, 0xD0, 0x24, 0xD4, 0xC4, 0xCA, 0xC3, 0x1F, 0x32,
    0x5F, 0x90, 0x3D, 0x0D, 0x23, 0xFC, 0x65, 0xEE, 0xBB, 0x1C, 0x75, 0x90, 0xB9, 0x62, 0xDB,
    0x57, 0x43, 0x2E]
  v2Y := #v[0xF0, 0xD4, 0x81, 0x42, 0xB3, 0x32, 0xD7, 0x3B, 0x41, 0xE0, 0xFB, 0x84, 0x4C, 0x86,
    0xEF, 0x66, 0x0F, 0x68, 0x4A, 0x05, 0x96, 0xE9, 0xCE, 0x00, 0xC4, 0xD3, 0xFE, 0x6E, 0x24,
    0x45, 0x4D, 0xD0]

/-- The handshake under the compiled-in anchors. -/
def runCertHandshake (c : Crypto) (fuel : ℕ) (hostCerts : List HostCert) :
    Prog Scsi (Except UnlockError CertHandshake) :=
  runCertHandshakeWithAnchors c fuel hostCerts licensingAnchors aacs2P256Experimental

structure AacsUnlocker where
  hostCerts : List HostCert
  arm : Option ArmRecipe

namespace AacsUnlocker

variable (U : AacsUnlocker)

/-- What arming a recipe means for the handshake: whether none is needed. -/
def armOutcome (recipe : ArmRecipe) : Except FirmwareError Unit → Except UnlockError Bool
  | .ok () => .ok recipe.disablesEncryption
  | .error .transport => .error .transport
  | .error _ => .ok false

/-- Apply the recipe, if there is one. -/
def maybeArm : Fallible Scsi UnlockError Bool :=
  match U.arm with
  | none => pure false
  | some recipe => ExceptT.mk (armOutcome recipe <$> (Firmware.arm recipe).run)

def captured (h : CertHandshake) : Unlocked := ⟨some h.volumeId, h.readDataKey⟩

def unlock (c : Crypto) (fuel : ℕ) (ctx : UnlockCtx) :
    Fallible Scsi UnlockError (Option Unlocked) :=
  if ctx.kind ≠ .aacs then pure none
  else do
    if ← U.maybeArm then
      let vid ← readAacsVid
      return some ⟨vid, none⟩
    else if U.hostCerts.isEmpty then return none
    else
      ExceptT.mk do
        let r ← runCertHandshake c fuel U.hostCerts
        return fallthrough (r.map captured)

end AacsUnlocker

end FreemkvUnlock.Aacs
