import Mathlib.Data.ZMod.Basic
import Mathlib.GroupTheory.OrderOfElement
import Mathlib.Tactic.LinearCombination

/-! # ECDSA over a group

The signature equation of ECDSA in an additive group, with a generator killed by `n`: the
verifier's combination of the generator and the public key is the signer's nonce point.
-/

namespace Ecdsa

variable {A : Type*} [AddCommGroup A] {g : A} {n : ℕ}

theorem nsmul_congr (hg : n • g = 0) {j k : ℕ} (h : j ≡ k [MOD n]) : j • g = k • g := by
  rw [← Nat.mod_add_div j n, ← Nat.mod_add_div k n, h, add_nsmul, add_nsmul, mul_comm n,
    mul_comm n, mul_nsmul', mul_nsmul', hg, nsmul_zero, nsmul_zero]

theorem nsmul_ne_zero (hn : n.Prime) (hg : n • g = 0) (h0 : g ≠ 0) {k : ℕ} (hk : k % n ≠ 0) :
    k • g ≠ 0 := by
  have : Fact n.Prime := ⟨hn⟩
  intro h
  have hd := addOrderOf_dvd_of_nsmul_eq_zero h
  rw [addOrderOf_eq_prime hg h0] at hd
  exact hk (Nat.mod_eq_zero_of_dvd hd)

/-- The scalars the verifier computes recover the nonce. -/
theorem scalar_modEq {k kInv s sInv z r d : ℕ} (hk : k * kInv ≡ 1 [MOD n])
    (hs : s ≡ kInv * (z + r * d) [MOD n]) (hsi : s * sInv ≡ 1 [MOD n]) :
    z * sInv + r * sInv * d ≡ k [MOD n] := by
  rw [← ZMod.natCast_eq_natCast_iff] at *
  push_cast at *
  linear_combination (k : ZMod n) * hsi - (k * sInv : ZMod n) * hs -
    ((z + r * d) * sInv : ZMod n) * hk

theorem verify_point (hg : n • g = 0) {k kInv s sInv z r d : ℕ} (hk : k * kInv ≡ 1 [MOD n])
    (hs : s ≡ kInv * (z + r * d) [MOD n]) (hsi : s * sInv ≡ 1 [MOD n]) :
    (z * sInv % n) • g + (r * sInv % n) • (d • g) = k • g := by
  rw [← mul_nsmul', ← add_nsmul]
  refine nsmul_congr hg (Nat.ModEq.trans ?_ (scalar_modEq hk hs hsi))
  exact (Nat.mod_modEq _ _).add ((Nat.mod_modEq _ _).mul_right d)

end Ecdsa
