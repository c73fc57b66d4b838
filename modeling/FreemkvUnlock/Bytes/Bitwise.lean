import Mathlib.Data.Nat.Bitwise
import FreemkvUnlock.Bytes.BigEndian

/-! # Bitwise operations on byte strings

A byte string shifted left one bit at a time, and two byte strings combined by exclusive or,
spell the doubled number and the exclusive or of the two numbers.
-/

namespace Bytes

/-- The bit that a byte string loses when it is shifted left. -/
def topBit : List UInt8 → UInt8
  | [] => 0
  | b :: _ => b >>> 7

/-- A byte string shifted left by one bit; each byte takes in the top bit of the next. -/
def shiftLeftOne : List UInt8 → List UInt8
  | [] => []
  | b :: bs => (b <<< 1 ||| topBit bs) :: shiftLeftOne bs

@[simp] theorem length_shiftLeftOne (bs : List UInt8) :
    (shiftLeftOne bs).length = bs.length := by
  induction bs with
  | nil => rfl
  | cons b bs ih => exact congrArg (· + 1) ih

theorem getElem?_shiftLeftOne (bs : List UInt8) (i : ℕ) :
    (shiftLeftOne bs)[i]? = bs[i]?.map fun b : UInt8 => b <<< 1 ||| topBit (bs.drop (i + 1)) := by
  induction bs generalizing i with
  | nil => rfl
  | cons b bs ih =>
    cases i with
    | zero => rfl
    | succ i => exact ih i

theorem fromBytesBe_cons (b : UInt8) (bs : List UInt8) :
    fromBytesBe (b :: bs) = b.toNat * 256 ^ bs.length + fromBytesBe bs := by
  have h := fromBytesBe_append [b] bs
  simpa [fromBytesBe] using h

/-- The lost bit is the carry of the doubled number. -/
theorem toNat_topBit (bs : List UInt8) :
    (topBit bs).toNat = 2 * fromBytesBe bs / 256 ^ bs.length := by
  cases bs with
  | nil => rfl
  | cons b bs =>
    have hlt := fromBytesBe_lt bs
    have htop : (b >>> 7).toNat = b.toNat / 128 := by
      rw [UInt8.toNat_shiftRight, Nat.shiftRight_eq_div_pow]
      rfl
    have hpos : 0 < 256 ^ bs.length := by positivity
    have hcarry : 2 * fromBytesBe bs / 256 ^ bs.length < 2 := by
      rw [Nat.div_lt_iff_lt_mul hpos]
      omega
    have hsplit : 2 * (b.toNat * 256 ^ bs.length + fromBytesBe bs) =
        2 * fromBytesBe bs + 2 * b.toNat * 256 ^ bs.length := by
      ring
    rw [topBit, htop, fromBytesBe_cons, List.length_cons, pow_succ, ← Nat.div_div_eq_div_mul,
      hsplit, Nat.add_mul_div_right _ _ hpos]
    generalize 2 * fromBytesBe bs / 256 ^ bs.length = carry at hcarry
    omega

theorem toNat_shiftLeft_or {b c : UInt8} (hc : c.toNat < 2) :
    (b <<< 1 ||| c).toNat = (2 * b.toNat + c.toNat) % 256 := by
  have hb : (b <<< 1).toNat = (b.toNat % 128) <<< 1 := by
    rw [UInt8.toNat_shiftLeft, Nat.shiftLeft_eq, Nat.shiftLeft_eq]
    change b.toNat * 2 % 256 = b.toNat % 128 * 2
    omega
  rw [UInt8.toNat_or, hb, ← Nat.shiftLeft_add_eq_or_of_lt hc, Nat.shiftLeft_eq]
  have := b.toNat_lt
  omega

/-- Shifting a byte string doubles its number, up to the carry out of the first byte. -/
theorem fromBytesBe_shiftLeftOne (bs : List UInt8) :
    fromBytesBe (shiftLeftOne bs) = 2 * fromBytesBe bs % 256 ^ bs.length := by
  induction bs with
  | nil => rfl
  | cons b bs ih =>
    have hlt := fromBytesBe_lt bs
    have hcarry := toNat_topBit bs
    have hc : (topBit bs).toNat < 2 := by
      rw [hcarry, Nat.div_lt_iff_lt_mul (by positivity)]
      omega
    rw [shiftLeftOne, fromBytesBe_cons, fromBytesBe_cons, length_shiftLeftOne, ih,
      toNat_shiftLeft_or hc, hcarry, List.length_cons, pow_succ]
    have hsplit : 2 * (b.toNat * 256 ^ bs.length + fromBytesBe bs) =
        2 * fromBytesBe bs + 2 * b.toNat * 256 ^ bs.length := by
      ring
    rw [hsplit, Nat.mod_mul, Nat.add_mul_mod_self_right,
      Nat.add_mul_div_right _ _ (by positivity), Nat.add_comm (2 * b.toNat)]
    ring

theorem mul_add_xor {m n a b : ℕ} (ha : a < 256) (hb : b < 256) :
    (m * 256 + a) ^^^ (n * 256 + b) = (m ^^^ n) * 256 + (a ^^^ b) := by
  have hdiv : ((m * 256 + a) ^^^ (n * 256 + b)) / 2 ^ 8 = m ^^^ n := by
    rw [Nat.xor_div_two_pow]
    congr 1 <;> omega
  have hmod : ((m * 256 + a) ^^^ (n * 256 + b)) % 2 ^ 8 = a ^^^ b := by
    rw [Nat.xor_mod_two_pow]
    congr 1 <;> omega
  rw [← Nat.div_add_mod ((m * 256 + a) ^^^ (n * 256 + b)) (2 ^ 8), hdiv, hmod]
  ring

theorem fromBytesBe_zipWith_xor {as bs : List UInt8} (h : as.length = bs.length) :
    fromBytesBe (List.zipWith (· ^^^ ·) as bs) = fromBytesBe as ^^^ fromBytesBe bs := by
  induction as using List.reverseRecOn generalizing bs with
  | nil =>
    obtain rfl := List.length_eq_zero_iff.mp h.symm
    rfl
  | append_singleton as a ih =>
    obtain rfl | ⟨bs, b, rfl⟩ := List.eq_nil_or_concat' bs
    · simp at h
    · have hl : as.length = bs.length := by simpa using h
      rw [List.zipWith_append hl, List.zipWith_cons_cons, List.zipWith_nil_left,
        fromBytesBe_concat, fromBytesBe_concat, fromBytesBe_concat, ih hl, UInt8.toNat_xor,
        mul_add_xor a.toNat_lt b.toNat_lt]

end Bytes
