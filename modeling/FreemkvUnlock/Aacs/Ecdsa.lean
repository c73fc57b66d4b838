import FreemkvUnlock.Aacs.Curve
import FreemkvUnlock.Bytes.BigEndian
import FreemkvUnlock.Bytes.Slice
import FreemkvUnlock.Scsi

/-! # ECDSA, certificates and bus keys

The 160-bit curve of AACS 1.0 and P-256 of AACS 2.0 share one signing, verification and
key-agreement routine, written once over the parameters of a curve. Hash functions and the
block cipher are parameters.
-/

namespace FreemkvUnlock.Aacs

open Interaction Bytes

/-- The cryptographic primitives the handshake is built on. -/
structure Crypto where
  sha1 : List UInt8 → List UInt8
  sha256 : List UInt8 → List UInt8
  /-- `aesEncrypt key block`. -/
  aesEncrypt : Vector UInt8 16 → Vector UInt8 16 → Vector UInt8 16
  aesDecrypt : Vector UInt8 16 → Vector UInt8 16 → Vector UInt8 16

/-- The fixed-size array that `copy_from_slice` fills; callers pass exactly `n` bytes. -/
def copyFromSlice (n : ℕ) (bs : List UInt8) : Vector UInt8 n := Vector.ofFn fun i => bs.getD i 0

theorem toList_copyFromSlice {n : ℕ} {bs : List UInt8} (h : bs.length = n) :
    (copyFromSlice n bs).toList = bs := by
  subst h
  apply List.ext_getElem
  · simp
  · intro i h₁ h₂
    simp [copyFromSlice]

theorem toList_copyFromSlice_extract {bs : List UInt8} {n i j : ℕ} (hn : j = i + n)
    (h : j ≤ bs.length) : (copyFromSlice n (bs.extract i j)).toList = bs.extract i j :=
  toList_copyFromSlice (by rw [length_extract _ h]; omega)

theorem copyFromSlice_toList {n : ℕ} (x : Vector UInt8 n) : copyFromSlice n x.toList = x :=
  Vector.toList_inj.mp (toList_copyFromSlice (by simp))

/-! ## Curve parameters -/

structure EcDomain where
  p : ℕ
  a : ℕ
  b : ℕ
  n : ℕ
  g : EcPoint
  width : ℕ

def ecP : ℕ := 0x9DC9D81355ECCEB560BDB09EF9EAE7C479A7D7DF
def ecA : ℕ := 0x9DC9D81355ECCEB560BDB09EF9EAE7C479A7D7DC
def ecB : ℕ := 0x402DAD3EC1CBCD165248D68E1245E0C4DAACB1D8
def ecN : ℕ := 0x9DC9D81355ECCEB560BDC44F54817B2C7F5AB017
def ecGx : ℕ := 0x2E64FC22578351E6F4CCA7EB81D0A4BDC54CCEC6
def ecGy : ℕ := 0x0914A25DD05442889DB455C7F23C9A0707F5CBB9

def aacs1 : EcDomain := ⟨ecP, ecA, ecB, ecN, EcPoint.new ecGx ecGy, 20⟩

def p256P : ℕ := 0xFFFFFFFF00000001000000000000000000000000FFFFFFFFFFFFFFFFFFFFFFFF
def p256A : ℕ := 0xFFFFFFFF00000001000000000000000000000000FFFFFFFFFFFFFFFFFFFFFFFC
def p256B : ℕ := 0x5AC635D8AA3A93E7B3EBBD55769886BC651D06B0CC53B0F63BCE3C3E27D2604B
def p256N : ℕ := 0xFFFFFFFF00000000FFFFFFFFFFFFFFFFBCE6FAADA7179E84F3B9CAC2FC632551
def p256Gx : ℕ := 0x6B17D1F2E12C4247F8BCE6E563A440F277037D812DEB33A0F4A13945D898C296
def p256Gy : ℕ := 0x4FE342E2FE1A7F9B8EE7EB4A7C0F9E162BCE33576B315ECECBB6406837BF51F5

def p256 : EcDomain := ⟨p256P, p256A, p256B, p256N, EcPoint.new p256Gx p256Gy, 32⟩

namespace EcDomain

variable (E : EcDomain)

def onCurve (x y : ℕ) : Bool := pointOnCurve x y E.a E.b E.p

def mul (k : ℕ) (P : EcPoint) : EcPoint := ecMul k P E.a E.p

/-- A byte string of coordinate width. -/
def encode (x : ℕ) : Vector UInt8 E.width :=
  copyFromSlice E.width (toBytesBePadded x E.width)

/-! ## Signing and verification -/

/-- One iteration of the signing loop on a drawn nonce; `none` where it redraws. -/
def signWith (hash : List UInt8 → List UInt8) (privKey data kBytes : List UInt8) :
    Option (Vector UInt8 E.width × Vector UInt8 E.width) :=
  let d := fromBytesBe privKey
  let z := fromBytesBe (hash data)
  let k := fromBytesBe kBytes
  if k = 0 ∨ k ≥ E.n then none
  else
    let r := (E.mul k E.g).x % E.n
    if r = 0 then none
    else
      match modInv k E.n with
      | none => none
      | some kInv =>
        let s := (kInv * ((z + r * d) % E.n)) % E.n
        if s = 0 then none else some (E.encode r, E.encode s)

/-- Sign with nonces drawn until one is accepted. -/
def sign (hash : List UInt8 → List UInt8) (fuel : ℕ) (privKey data : List UInt8) :
    Prog Scsi (Vector UInt8 E.width × Vector UInt8 E.width) :=
  Prog.retry (do
    let kBytes ← Scsi.fillBytes E.width
    pure (E.signWith hash privKey data kBytes.toList)) fuel

/-- Verify `(r, s)` over `data` under the public key, which must lie on the curve. -/
def verify (hash : List UInt8 → List UInt8) (pubX pubY sigR sigS data : List UInt8) : Bool :=
  let q := EcPoint.new (fromBytesBe pubX) (fromBytesBe pubY)
  if !E.onCurve q.x q.y then false
  else
    let r := fromBytesBe sigR
    let s := fromBytesBe sigS
    if r = 0 ∨ r ≥ E.n ∨ s = 0 ∨ s ≥ E.n then false
    else
      let z := fromBytesBe (hash data)
      match modInv s E.n with
      | none => false
      | some sInv =>
        let u1 := (z * sInv) % E.n
        let u2 := (r * sInv) % E.n
        let rPoint := ecAdd (E.mul u1 E.g) (E.mul u2 q) E.a E.p
        if rPoint.infinity then false else rPoint.x % E.n == r

/-! ## Key agreement -/

/-- The bus key: the low 128 bits of the shared point's x-coordinate. -/
def busKey (hostPriv pointX pointY : List UInt8) : Option (Vector UInt8 16) :=
  let d := fromBytesBe hostPriv
  let dx := fromBytesBe pointX
  let dy := fromBytesBe pointY
  if !E.onCurve dx dy then none
  else
    let shared := E.mul d (EcPoint.new dx dy)
    if shared.infinity then none
    else
      let xBytes := toBytesBePadded shared.x E.width
      some (copyFromSlice 16 (xBytes.drop (E.width - 16)))

/-- Private key and public point of a drawn scalar; `none` where the loop redraws. -/
def keyPairWith (privBytes : List UInt8) :
    Option (Vector UInt8 E.width × Vector UInt8 E.width × Vector UInt8 E.width) :=
  let d := fromBytesBe privBytes
  if d = 0 ∨ d ≥ E.n then none
  else
    let q := E.mul d E.g
    some (E.encode d, E.encode q.x, E.encode q.y)

def generateKeyPair (fuel : ℕ) :
    Prog Scsi (Vector UInt8 E.width × Vector UInt8 E.width × Vector UInt8 E.width) :=
  Prog.retry (do
    let privBytes ← Scsi.fillBytes E.width
    pure (E.keyPairWith privBytes.toList)) fuel

end EcDomain

section Members

variable (c : Crypto)

def ecdsaSign (fuel : ℕ) (privKey : Vector UInt8 20) (data : List UInt8) :
    Prog Scsi (Vector UInt8 20 × Vector UInt8 20) := aacs1.sign c.sha1 fuel privKey.toList data

def ecdsaVerify (pubX pubY sigR sigS : Vector UInt8 20) (data : List UInt8) : Bool :=
  aacs1.verify c.sha1 pubX.toList pubY.toList sigR.toList sigS.toList data

def ecdsaSignP256 (fuel : ℕ) (privKey : Vector UInt8 32) (data : List UInt8) :
    Prog Scsi (Vector UInt8 32 × Vector UInt8 32) := p256.sign c.sha256 fuel privKey.toList data

def ecdsaVerifyP256 (pubX pubY sigR sigS data : List UInt8) : Bool :=
  p256.verify c.sha256 pubX pubY sigR sigS data

def computeBusKey (hostPriv pointX pointY : Vector UInt8 20) : Option (Vector UInt8 16) :=
  aacs1.busKey hostPriv.toList pointX.toList pointY.toList

def computeBusKeyP256 (hostPriv : Vector UInt8 32) (pointX pointY : List UInt8) :
    Option (Vector UInt8 16) := p256.busKey hostPriv.toList pointX pointY

def generateHostKeyPair (fuel : ℕ) :
    Prog Scsi (Vector UInt8 20 × Vector UInt8 20 × Vector UInt8 20) := aacs1.generateKeyPair fuel

def generateHostKeyPairP256 (fuel : ℕ) :
    Prog Scsi (Vector UInt8 32 × Vector UInt8 32 × Vector UInt8 32) := p256.generateKeyPair fuel

/-! ## Certificates -/

/-- Verify a 1.0 certificate, signed over its first 52 bytes, against a trust anchor. -/
def verifyCertWithAnchor (cert : List UInt8) (laX laY : Vector UInt8 20) : Bool :=
  if cert.length < 92 then false
  else
    ecdsaVerify c laX laY (copyFromSlice 20 (cert.extract 52 72))
      (copyFromSlice 20 (cert.extract 72 92)) (cert.take 52)

/-- Public key of a 1.0 certificate; zero for a short one. -/
def certPubKey (cert : List UInt8) : Vector UInt8 20 × Vector UInt8 20 :=
  if cert.length < 52 then (Vector.replicate 20 0, Vector.replicate 20 0)
  else (copyFromSlice 20 (cert.extract 12 32), copyFromSlice 20 (cert.extract 32 52))

/-- Verify a 2.0 certificate, signed over its first 68 bytes. -/
def verifyCertP256 (cert : List UInt8) (laX laY : Vector UInt8 32) : Bool :=
  if cert.length < 132 then false
  else
    ecdsaVerifyP256 c laX.toList laY.toList (cert.extract 68 100) (cert.extract 100 132)
      (cert.take 68)

def certPubKeyP256 (cert : List UInt8) : Vector UInt8 32 × Vector UInt8 32 :=
  if cert.length < 68 then (Vector.replicate 32 0, Vector.replicate 32 0)
  else (copyFromSlice 32 (cert.extract 4 36), copyFromSlice 32 (cert.extract 36 68))

/-- True iff the private key's public point is the certificate's public key. -/
def aacs1KeypairMatches (privateKey : Vector UInt8 20) (cert : List UInt8) : Bool :=
  if cert.length < 52 then false
  else
    let d := fromBytesBe privateKey.toList % ecN
    if d = 0 then false
    else
      let q := aacs1.mul d aacs1.g
      if q.infinity then false
      else
        let (cx, cy) := certPubKey cert
        q.x == fromBytesBe cx.toList && q.y == fromBytesBe cy.toList

end Members

end FreemkvUnlock.Aacs
