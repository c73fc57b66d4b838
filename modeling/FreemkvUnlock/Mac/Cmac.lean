import FreemkvUnlock.Bytes.BigEndian

/-! # Block-cipher message authentication

CMAC over a cipher on blocks of `size` bytes. The blocks of a message are chained through the
cipher; the last one is masked with one subkey when it is full, and padded and masked with the
other when it is not. Both subkeys come from the encrypted zero block by doubling in a field whose
reduction constant is `rb`.
-/

namespace Cmac

open Bytes

/-- The block that a byte string spells. -/
def ofBytes (size : ℕ) (bs : List UInt8) : BitVec (8 * size) := .ofNat _ (fromBytesBe bs)

/-- Doubling: a shift, reduced when a bit is lost. -/
def double {w : ℕ} (rb l : BitVec w) : BitVec w :=
  if l.msb then (l <<< 1) ^^^ rb else l <<< 1

theorem toNat_double {w : ℕ} (rb l : BitVec w) :
    (double rb l).toNat =
      2 * l.toNat % 2 ^ w ^^^ if 2 ^ (w - 1) ≤ l.toNat then rb.toNat else 0 := by
  have hshift : (l <<< 1).toNat = 2 * l.toNat % 2 ^ w := by
    rw [BitVec.toNat_shiftLeft, Nat.shiftLeft_eq, pow_one, mul_comm]
  rw [double, BitVec.msb_eq_decide]
  by_cases h : 2 ^ (w - 1) ≤ l.toNat
  · rw [if_pos (decide_eq_true h), if_pos h, BitVec.toNat_xor, hshift]
  · rw [if_neg (by rwa [decide_eq_true_iff]), if_neg h, hshift, Nat.xor_zero]

section Mac

variable {size : ℕ} (rb : BitVec (8 * size)) (E : BitVec (8 * size) → BitVec (8 * size))
  {m : List UInt8}

def subkey₁ : BitVec (8 * size) := double rb (E 0)

def subkey₂ : BitVec (8 * size) := double rb (subkey₁ rb E)

/-- A one bit and zeros up to a full block. -/
def pad (size : ℕ) (bs : List UInt8) : List UInt8 :=
  bs ++ 0x80 :: List.replicate (size - 1 - bs.length) 0

/-- How many blocks a message has; the empty message has one. -/
def blockCount (size : ℕ) (m : List UInt8) : ℕ := max 1 ((m.length + size - 1) / size)

def lastBytes (size : ℕ) (m : List UInt8) : List UInt8 := m.drop (size * (blockCount size m - 1))

def lastBlock (m : List UInt8) : BitVec (8 * size) :=
  if (lastBytes size m).length = size then ofBytes size (lastBytes size m) ^^^ subkey₁ rb E
  else ofBytes size (pad size (lastBytes size m)) ^^^ subkey₂ rb E

/-- The blocks before the last, chained. -/
def chain (m : List UInt8) : BitVec (8 * size) :=
  (List.range (blockCount size m - 1)).foldl
    (fun x i => E (x ^^^ ofBytes size ((m.drop (size * i)).take size))) 0

def mac (m : List UInt8) : BitVec (8 * size) := E (lastBlock rb E m ^^^ chain E m)

theorem mac_of_length (hsize : 0 < size) (hm : m.length = size) :
    mac rb E m = E (ofBytes size m ^^^ subkey₁ rb E) := by
  have hcount : blockCount size m = 1 := by
    have hdiv : (size + size - 1) / size = 1 := by
      rw [Nat.div_eq_iff hsize]
      omega
    rw [blockCount, hm, hdiv, max_self]
  have hlast : lastBytes size m = m := by
    rw [lastBytes, hcount, Nat.sub_self, Nat.mul_zero, List.drop_zero]
  have hchain : chain E m = 0 := by
    rw [chain, hcount]
    rfl
  rw [mac, hchain, lastBlock, hlast, if_pos hm]
  congr 1
  exact BitVec.xor_zero

end Mac

end Cmac
