import Mathlib.Data.Nat.Digits.Lemmas
import Mathlib.Tactic.Linarith
import Mathlib.Tactic.Ring

/-! # Big-endian byte strings

Naturals as big-endian byte strings of minimal and of fixed width, and the two round trips
between them.
-/

namespace Bytes

def fromBytesBe (bs : List UInt8) : ℕ := bs.foldl (fun n b => n * 256 + b.toNat) 0

/-- The shortest big-endian byte string of `n`; zero is one byte. -/
def toBytesBe (n : ℕ) : List UInt8 :=
  if n = 0 then [0] else (Nat.digits 256 n).reverse.map UInt8.ofNat

/-- Big-endian bytes of a fixed width, zero-padded or cut at the front. -/
def toBytesBePadded (n len : ℕ) : List UInt8 :=
  let bytes := toBytesBe n
  if bytes.length ≥ len then bytes.drop (bytes.length - len)
  else List.replicate (len - bytes.length) 0 ++ bytes

def u32ToBeBytes (n : ℕ) : List UInt8 :=
  [(n >>> 24).toUInt8, (n >>> 16).toUInt8, (n >>> 8).toUInt8, n.toUInt8]

@[simp] theorem length_u32ToBeBytes (n : ℕ) : (u32ToBeBytes n).length = 4 := rfl

@[simp] theorem fromBytesBe_nil : fromBytesBe [] = 0 := rfl

theorem fromBytesBe_concat (bs : List UInt8) (b : UInt8) :
    fromBytesBe (bs ++ [b]) = fromBytesBe bs * 256 + b.toNat := by
  simp [fromBytesBe]

theorem fromBytesBe_append (as bs : List UInt8) :
    fromBytesBe (as ++ bs) = fromBytesBe as * 256 ^ bs.length + fromBytesBe bs := by
  induction bs using List.reverseRecOn with
  | nil => simp
  | append_singleton bs b ih =>
    rw [← List.append_assoc, fromBytesBe_concat, ih, fromBytesBe_concat, List.length_append,
      List.length_singleton, pow_succ]
    ring

theorem fromBytesBe_replicate_zero (n : ℕ) : fromBytesBe (List.replicate n 0) = 0 := by
  induction n with
  | zero => rfl
  | succ n ih => rw [List.replicate_succ', fromBytesBe_concat, ih]; rfl

theorem fromBytesBe_lt (bs : List UInt8) : fromBytesBe bs < 256 ^ bs.length := by
  induction bs using List.reverseRecOn with
  | nil => simp
  | append_singleton bs b ih =>
    have hb := b.toNat_lt
    rw [fromBytesBe_concat, List.length_append, List.length_singleton, pow_succ]
    omega

theorem fromBytesBe_drop (bs : List UInt8) (k : ℕ) :
    fromBytesBe (bs.drop k) = fromBytesBe bs % 256 ^ (bs.drop k).length := by
  conv_rhs => rw [← List.take_append_drop k bs, fromBytesBe_append]
  have h := fromBytesBe_lt (bs.drop k)
  rw [List.take_append_drop, Nat.mul_add_mod', Nat.mod_eq_of_lt h]

@[simp] theorem fromBytesBe_u32ToBeBytes (n : ℕ) : fromBytesBe (u32ToBeBytes n) = n % 2 ^ 32 := by
  simp only [u32ToBeBytes, fromBytesBe, List.foldl_cons, List.foldl_nil, Nat.toUInt8_eq,
    UInt8.toNat_ofNat', Nat.shiftRight_eq_div_pow]
  omega

theorem fromBytesBe_drop_u32ToBeBytes {n : ℕ} (h : n < 2 ^ 24) :
    fromBytesBe ((u32ToBeBytes n).drop 1) = n := by
  simp only [u32ToBeBytes, fromBytesBe, List.drop_succ_cons, List.drop_zero, List.foldl_cons,
    List.foldl_nil, Nat.toUInt8_eq, UInt8.toNat_ofNat', Nat.shiftRight_eq_div_pow]
  omega

theorem fromBytesBe_map_reverse (ds : List ℕ) (h : ∀ d ∈ ds, d < 256) :
    fromBytesBe (ds.reverse.map UInt8.ofNat) = Nat.ofDigits 256 ds := by
  induction ds with
  | nil => rfl
  | cons d ds ih =>
    have hd : (UInt8.ofNat d).toNat = d := by
      rw [UInt8.toNat_ofNat', Nat.mod_eq_of_lt (h d List.mem_cons_self)]
    rw [List.reverse_cons, List.map_append, List.map_singleton, fromBytesBe_concat, hd,
      ih fun e he => h e (List.mem_cons_of_mem _ he), Nat.ofDigits_cons]
    ring

@[simp] theorem fromBytesBe_toBytesBe (n : ℕ) : fromBytesBe (toBytesBe n) = n := by
  unfold toBytesBe
  split_ifs with h
  · rw [h]; rfl
  · rw [fromBytesBe_map_reverse _ fun d hd => Nat.digits_lt_base (by norm_num) hd,
      Nat.ofDigits_digits]

theorem length_toBytesBe_le {n len : ℕ} (hlen : 0 < len) (h : n < 256 ^ len) :
    (toBytesBe n).length ≤ len := by
  unfold toBytesBe
  split_ifs with h0
  · exact hlen
  · rw [List.length_map, List.length_reverse]
    exact (Nat.digits_length_le_iff (by norm_num) n).mpr h

@[simp] theorem length_toBytesBePadded (n len : ℕ) : (toBytesBePadded n len).length = len := by
  simp only [toBytesBePadded]
  split_ifs with h
  · rw [List.length_drop]; omega
  · rw [List.length_append, List.length_replicate]; omega

theorem fromBytesBe_toBytesBePadded {n len : ℕ} (hlen : 0 < len) (h : n < 256 ^ len) :
    fromBytesBe (toBytesBePadded n len) = n := by
  have hle := length_toBytesBe_le hlen h
  simp only [toBytesBePadded]
  split_ifs with hc
  · rw [Nat.sub_eq_zero_of_le hle, List.drop_zero, fromBytesBe_toBytesBe]
  · rw [fromBytesBe_append, fromBytesBe_replicate_zero, fromBytesBe_toBytesBe]; omega

theorem fromBytesBe_injective {as bs : List UInt8} (hl : as.length = bs.length)
    (h : fromBytesBe as = fromBytesBe bs) : as = bs := by
  induction as using List.reverseRecOn generalizing bs with
  | nil => exact (List.length_eq_zero_iff.mp hl.symm).symm
  | append_singleton as a ih =>
    obtain rfl | ⟨bs, b, rfl⟩ := List.eq_nil_or_concat' bs
    · simp at hl
    · rw [fromBytesBe_concat, fromBytesBe_concat] at h
      have ha := a.toNat_lt
      have hb := b.toNat_lt
      rw [ih (by simpa using hl) (by omega), UInt8.toNat_inj.mp (by omega : a.toNat = b.toNat)]

theorem toBytesBePadded_fromBytesBe {bs : List UInt8} (h : bs ≠ []) :
    toBytesBePadded (fromBytesBe bs) bs.length = bs :=
  fromBytesBe_injective (by simp)
    (fromBytesBe_toBytesBePadded (List.length_pos_iff.mpr h) (fromBytesBe_lt bs))

end Bytes
