import Mathlib.Data.Nat.Notation

/-! # Unlock outcomes

What unlockers are given and what they report. Only a dead bus is a hard error; every other
failure falls through to the next unlocker.
-/

namespace FreemkvUnlock

structure DriveId where
  vendorId : String
  productId : String
  productRevision : String
  vendorSpecific : String
  firmwareDate : String
  deriving DecidableEq

/-- The blanks that trimming removes, the characters with the property White_Space. -/
def isWhitespace (c : Char) : Bool :=
  let n := c.toNat
  (0x09 ≤ n && n ≤ 0x0D) || n = 0x20 || n = 0x85 || n = 0xA0 || n = 0x1680 ||
    (0x2000 ≤ n && n ≤ 0x200A) || n = 0x2028 || n = 0x2029 || n = 0x202F || n = 0x205F || n = 0x3000

def trim (s : String) : List Char :=
  ((s.toList.dropWhile isWhitespace).reverse.dropWhile isWhitespace).reverse

inductive DiscKind
  | unknown
  | unencrypted
  | aacs
  | css
  deriving DecidableEq, Repr

structure UnlockCtx where
  driveId : DriveId
  kind : DiscKind

/-- A host certificate for the AACS handshake, with its optional P-256 half. -/
structure HostCert where
  privateKey : Vector UInt8 20
  certificate : List UInt8
  privateKeyV2 : Option (Vector UInt8 32)
  certificateV2 : Option (List UInt8)

structure Unlocked where
  vid : Option (Vector UInt8 16)
  busKey : Option (Vector UInt8 16)
  deriving DecidableEq

inductive UnlockError
  | notApplicable
  | noUsableHostCert
  | handshakeRejected
  | vidUnavailable
  | transport
  deriving DecidableEq, Repr

/-- Success is `some`, a dead bus is the error, anything else is `none`. -/
def fallthrough : Except UnlockError Unlocked → Except UnlockError (Option Unlocked)
  | .ok u => .ok (some u)
  | .error .transport => .error .transport
  | .error _ => .ok none

end FreemkvUnlock
