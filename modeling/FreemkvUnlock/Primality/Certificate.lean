import Mathlib.NumberTheory.LucasPrimality
import Mathlib.Tactic.NormNum

/-! # Primality certificates

A certificate lists primes in order: for each a primitive root and the factorisation of its
predecessor into primes listed before it, or into primes small enough for trial division. The
check only multiplies and divides, so large primes are certified by evaluation.
-/

namespace Primality

/-! ## Modular powers -/

/-- Square and multiply with a bound on the number of bits. -/
def powModLoop (m : ℕ) : ℕ → ℕ → ℕ → ℕ → ℕ
  | 0, _, _, acc => acc
  | fuel + 1, base, e, acc =>
    powModLoop m fuel (base * base % m) (e / 2) (if e % 2 = 1 then acc * base % m else acc)

def powMod (m base e : ℕ) : ℕ := powModLoop m (Nat.log2 e + 1) base e 1

theorem powModLoop_modEq (m base acc : ℕ) {fuel e : ℕ} (h : e < 2 ^ fuel) :
    powModLoop m fuel base e acc ≡ acc * base ^ e [MOD m] := by
  induction fuel generalizing base e acc with
  | zero =>
    obtain rfl : e = 0 := by omega
    simp [powModLoop, Nat.ModEq]
  | succ fuel ih =>
    have hacc : (if e % 2 = 1 then acc * base % m else acc) ≡ acc * base ^ (e % 2) [MOD m] := by
      split_ifs with hb
      · rw [hb, pow_one]; exact Nat.mod_modEq _ _
      · rw [Nat.mod_two_ne_one.mp hb, pow_zero, mul_one]
    have hpow : acc * base ^ e = acc * base ^ (e % 2) * (base * base) ^ (e / 2) := by
      rw [← sq, ← pow_mul, mul_assoc, ← pow_add, Nat.mod_add_div]
    have h' : e / 2 < 2 ^ fuel := by rw [pow_succ] at h; omega
    rw [hpow]
    exact (ih _ _ h').trans (hacc.mul ((Nat.mod_modEq _ _).pow _))

theorem cast_powMod {m : ℕ} (base e : ℕ) : (powMod m base e : ZMod m) = (base : ZMod m) ^ e := by
  have h := powModLoop_modEq m base 1 (Nat.lt_log2_self (n := e))
  rw [← ZMod.natCast_eq_natCast_iff] at h
  simpa [powMod] using h

/-! ## Certificates -/

structure Step where
  n : ℕ
  root : ℕ
  factors : List ℕ

def smallPrime (n : ℕ) : Bool :=
  2 ≤ n && n < 65536 && (List.range 256).all fun d => d < 2 || n ≤ d || n % d != 0

def Step.check (s : Step) (known : List ℕ) : Bool :=
  1 < s.n && s.factors.prod == s.n - 1 && powMod s.n s.root (s.n - 1) == 1 &&
    s.factors.all fun q =>
      (smallPrime q || known.contains q) && powMod s.n s.root ((s.n - 1) / q) % s.n != 1

def checkAll : List Step → List ℕ → Bool
  | [], _ => true
  | s :: steps, known => s.check known && checkAll steps (s.n :: known)

theorem prime_of_smallPrime {n : ℕ} (h : smallPrime n = true) : n.Prime := by
  simp only [smallPrime, Bool.and_eq_true, decide_eq_true_eq, List.all_eq_true, List.mem_range,
    Bool.or_eq_true, bne_iff_ne] at h
  obtain ⟨⟨h2, hlt⟩, hd⟩ := h
  refine Nat.prime_def_le_sqrt.mpr ⟨h2, fun d hd2 hle hdvd => ?_⟩
  have hsq := Nat.le_sqrt.mp hle
  have hd256 : d < 256 := by nlinarith
  have hdn : d < n := by nlinarith
  rcases hd d hd256 with (h | h) | h
  · omega
  · omega
  · exact h (Nat.mod_eq_zero_of_dvd hdvd)

theorem Step.prime {s : Step} {known : List ℕ} (hk : ∀ q ∈ known, q.Prime)
    (h : s.check known = true) : s.n.Prime := by
  simp only [Step.check, Bool.and_eq_true, decide_eq_true_eq, beq_iff_eq, List.all_eq_true,
    Bool.or_eq_true, List.contains_iff_mem, bne_iff_ne] at h
  obtain ⟨⟨⟨h1, hprod⟩, hone⟩, hq⟩ := h
  have hfac : ∀ q ∈ s.factors, q.Prime := fun q hm =>
    (hq q hm).1.elim prime_of_smallPrime (hk q)
  have : Fact (1 < s.n) := ⟨h1⟩
  refine lucas_primality s.n (s.root : ZMod s.n) ?_ fun q hqp hdvd => ?_
  · rw [← cast_powMod, hone, Nat.cast_one]
  · -- a prime divisor of the product of the listed primes is one of them
    rw [← hprod, hqp.prime.dvd_prod_iff] at hdvd
    obtain ⟨f, hf, hqf⟩ := hdvd
    obtain rfl := (Nat.prime_dvd_prime_iff_eq hqp (hfac f hf)).mp hqf
    rw [← cast_powMod]
    intro h
    have hmod := (ZMod.natCast_eq_natCast_iff' _ 1 _).mp (h.trans Nat.cast_one.symm)
    rw [Nat.mod_eq_of_lt h1] at hmod
    exact (hq q hf).2 hmod

theorem prime_of_checkAll {steps : List Step} (known : List ℕ) (hk : ∀ q ∈ known, q.Prime)
    (h : checkAll steps known = true) : ∀ s ∈ steps, s.n.Prime := by
  induction steps generalizing known with
  | nil => nofun
  | cons s steps ih =>
    simp only [checkAll, Bool.and_eq_true] at h
    have hs := Step.prime hk h.1
    refine List.forall_mem_cons.mpr ⟨hs, ih _ (List.forall_mem_cons.mpr ⟨hs, hk⟩) h.2⟩

end Primality
