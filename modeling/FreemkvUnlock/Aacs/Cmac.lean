import FreemkvUnlock.Aacs.Commands
import FreemkvUnlock.Bytes.Bitwise
import FreemkvUnlock.Mac.Cmac

/-! # The code of one full block

The byte-wise subkey is the doubled block, so the code that authenticates Volume IDs is CMAC of a
message of one block, for any cipher in the place of AES.
-/

namespace FreemkvUnlock.Aacs

open Bytes

def toBlock (v : Vector UInt8 16) : BitVec (8 * 16) := Cmac.ofBytes 16 v.toList

def ofBlock (b : BitVec (8 * 16)) : Vector UInt8 16 :=
  ⟨(toBytesBePadded b.toNat 16).toArray, by simp⟩

def Crypto.cipher (c : Crypto) (key : Vector UInt8 16) (b : BitVec (8 * 16)) : BitVec (8 * 16) :=
  toBlock (c.aesEncrypt key (ofBlock b))

variable {v w l : Vector UInt8 16}

theorem toNat_toBlock (v : Vector UInt8 16) : (toBlock v).toNat = fromBytesBe v.toList := by
  have hlt := fromBytesBe_lt v.toList
  rw [Vector.length_toList] at hlt
  exact Nat.mod_eq_of_lt (hlt.trans_eq (by norm_num))

@[simp] theorem ofBlock_toBlock (v : Vector UInt8 16) : ofBlock (toBlock v) = v := by
  have hlist : (ofBlock (toBlock v)).toList = v.toList := by
    have h := @toBytesBePadded_fromBytesBe v.toList (by simp)
    rw [Vector.length_toList] at h
    simpa [ofBlock, toNat_toBlock] using h
  exact Vector.toList_inj.mp hlist

theorem toBlock_zipWith_xor (v w : Vector UInt8 16) :
    toBlock (v.zipWith (· ^^^ ·) w) = toBlock v ^^^ toBlock w := by
  apply BitVec.eq_of_toNat_eq
  rw [BitVec.toNat_xor, toNat_toBlock, toNat_toBlock, toNat_toBlock,
    ← fromBytesBe_zipWith_xor (by simp)]
  congr 1
  apply List.ext_getElem <;> simp

/-- The carry loop shifts the bytes by one bit. -/
theorem toList_shifted {n : ℕ} (l : Vector UInt8 (n + 1)) :
    (Vector.ofFn fun i : Fin (n + 1) => if h : i.val + 1 < n + 1 then
      (l[i] <<< 1) ||| (l[i.val + 1] >>> 7) else l[i] <<< 1).toList = shiftLeftOne l.toList := by
  apply List.ext_getElem?
  intro i
  rw [getElem?_shiftLeftOne]
  by_cases hi : i < n + 1
  · by_cases hnext : i < n
    · have hdrop : l.toList.drop (i + 1) = l[i + 1] :: l.toList.drop (i + 1 + 1) := by
        rw [List.drop_eq_getElem_cons (by simpa using hnext),
          Vector.getElem_toList]
      rw [hdrop]
      simp [hi, hnext, topBit]
    · rw [List.drop_eq_nil_of_le (by simp; omega)]
      simp [hi, hnext, topBit]
  · simp [hi]

theorem toList_set_last {n : ℕ} (v : Vector UInt8 (n + 1)) (c : UInt8) :
    (v.set n (v[n] ^^^ c)).toList =
      List.zipWith (· ^^^ ·) v.toList (List.replicate n 0 ++ [c]) := by
  apply List.ext_getElem
  · simp
  · intro i h₁ h₂
    have hi : i < n + 1 := by simpa using h₁
    by_cases hlast : i = n
    · subst hlast
      simp
    · have hlt : i < (List.replicate n (0 : UInt8)).length := by
        rw [List.length_replicate]
        omega
      rw [List.getElem_zipWith, List.getElem_append_left hlt, List.getElem_replicate,
        UInt8.xor_zero, Vector.getElem_toList, Vector.getElem_toList,
        Vector.getElem_set_ne _ _ (Ne.symm hlast)]

theorem toNat_cmacSubkey (l : Vector UInt8 16) : fromBytesBe (cmacSubkey l).toList =
    2 * fromBytesBe l.toList % 2 ^ 128 ^^^ if 2 ^ 127 ≤ fromBytesBe l.toList then 0x87 else 0 := by
  have hshift := fromBytesBe_shiftLeftOne l.toList
  have hpow : 256 ^ 16 = 2 ^ 128 := by norm_num
  rw [Vector.length_toList, hpow] at hshift
  -- The top bit of the number is the top bit of its first byte.
  have htop : (l[0] >>> 7) &&& 1 = 1 ↔ 2 ^ 127 ≤ fromBytesBe l.toList := by
    have htail : l.toList = l[0] :: l.toList.drop 1 := by
      rw [← Vector.getElem_toList (by simp), ← List.drop_eq_getElem_cons, List.drop_zero]
    have hdiv := toNat_topBit l.toList
    rw [Vector.length_toList, hpow] at hdiv
    rw [htail, topBit, ← htail] at hdiv
    have hlt := fromBytesBe_lt l.toList
    rw [Vector.length_toList, hpow] at hlt
    rw [← UInt8.toNat_inj, UInt8.toNat_and, hdiv]
    change (_ &&& 1) = 1 ↔ _
    rw [Nat.and_one_is_mod]
    omega
  unfold cmacSubkey
  by_cases h : (l[0] >>> 7) &&& 1 = 1
  · have hconst : fromBytesBe (List.replicate 15 0 ++ [0x87]) = 0x87 := by decide
    rw [if_pos (htop.mp h)]
    simp only [if_pos h]
    rw [toList_set_last (n := 15), fromBytesBe_zipWith_xor (by simp), toList_shifted (n := 15),
      hshift, hconst]
  · rw [if_neg (mt htop.mpr h), Nat.xor_zero, ← hshift, ← toList_shifted (n := 15)]
    simp only [if_neg h]

theorem toBlock_cmacSubkey (l : Vector UInt8 16) :
    toBlock (cmacSubkey l) = Cmac.double 0x87 (toBlock l) := by
  apply BitVec.eq_of_toNat_eq
  rw [toNat_toBlock, toNat_cmacSubkey, Cmac.toNat_double, toNat_toBlock]
  rfl

/-- The code is CMAC of the block, and its subkey is twice the encrypted zero block modulo
`2 ^ 128`, reduced when the top bit is set. -/
theorem aesCmac16_eq_mac (c : Crypto) (key data : Vector UInt8 16) :
    aesCmac16 c data key = ofBlock (Cmac.mac 0x87 (c.cipher key) data.toList) ∧
      ∀ l : Vector UInt8 16, fromBytesBe (cmacSubkey l).toList =
        2 * fromBytesBe l.toList % 2 ^ 128 ^^^
          if 2 ^ 127 ≤ fromBytesBe l.toList then 0x87 else 0 := by
  refine ⟨?_, toNat_cmacSubkey⟩
  have hzero : ofBlock 0 = Vector.replicate 16 0 := by decide +kernel
  have hsubkey : Cmac.subkey₁ 0x87 (c.cipher key) =
      toBlock (cmacSubkey (c.aesEncrypt key (Vector.replicate 16 0))) := by
    rw [Cmac.subkey₁, Crypto.cipher, hzero, toBlock_cmacSubkey]
  rw [Cmac.mac_of_length _ _ (by decide) Vector.length_toList, hsubkey]
  change _ = ofBlock (c.cipher key (toBlock data ^^^ _))
  rw [← toBlock_zipWith_xor, Crypto.cipher, ofBlock_toBlock, ofBlock_toBlock, aesCmac16]
  congr 1
  apply Vector.ext
  intro i hi
  simp

end FreemkvUnlock.Aacs
