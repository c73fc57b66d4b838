import Mathlib.Data.Int.DivMod
import Mathlib.Data.Nat.ModEq
import Mathlib.Data.ZMod.Basic
import Mathlib.Tactic.LinearCombination
import Mathlib.Tactic.Linarith
import Mathlib.Tactic.Ring

/-! # Elliptic curve arithmetic over GF(p)

The handshake's modular inverse, point addition, doubling and scalar multiplication on
`y² = x³ + ax + b`, over naturals of any size. The inverse is correct for every modulus
above one.
-/

namespace FreemkvUnlock.Aacs

structure EcPoint where
  x : ℕ
  y : ℕ
  infinity : Bool
  deriving DecidableEq, Repr

namespace EcPoint

def atInfinity : EcPoint := ⟨0, 0, true⟩

def new (x y : ℕ) : EcPoint := ⟨x, y, false⟩

end EcPoint

/-! ## Modular inverse -/

/-- The extended Euclid loop; it returns the last `old_r` and `old_s`. -/
def modInvLoop (oldR r oldS s : ℤ) : ℤ × ℤ :=
  if r = 0 then (oldR, oldS)
  else
    let q := oldR.tdiv r
    modInvLoop r (oldR - q * r) s (oldS - q * s)
termination_by r.natAbs
decreasing_by
  have h : oldR - oldR.tdiv r * r = oldR.tmod r := by rw [Int.tmod_def]; ring
  rw [h, Int.natAbs_tmod]
  exact Nat.mod_lt _ (Int.natAbs_pos.mpr ‹_›)

def modInv (a m : ℕ) : Option ℕ :=
  let (oldR, oldS) := modInvLoop a m 1 0
  if oldR ≠ 1 then none
  else some (if oldS < 0 then oldS + m else oldS).toNat

/-- What the Euclid loop keeps: both remainders are combinations of `a` modulo `m`, their gcd
stays, and the coefficients alternate in sign with determinant `m`. -/
structure EuclidInv (a m : ℕ) (oldR r oldS s : ℤ) : Prop where
  oldR_nonneg : 0 ≤ oldR
  r_nonneg : 0 ≤ r
  started : 0 < oldR ∨ s = 0
  gcd_eq : Int.gcd oldR r = Nat.gcd a m
  old_modEq : a * oldS ≡ oldR [ZMOD m]
  modEq : a * s ≡ r [ZMOD m]
  signs : (0 ≤ oldS ∧ s ≤ 0 ∧ oldS * r - s * oldR = m) ∨
    (oldS ≤ 0 ∧ 0 ≤ s ∧ s * oldR - oldS * r = m)
  old_bound : |oldS| ≤ m

namespace EuclidInv

variable {a m : ℕ} {oldR r oldS s : ℤ}

theorem init (hm : 0 < m) : EuclidInv a m a m 1 0 where
  oldR_nonneg := by simp
  r_nonneg := by simp
  started := .inr rfl
  gcd_eq := by simp [Int.gcd]
  old_modEq := by simp
  modEq := by simp [Int.ModEq]
  signs := by simp
  old_bound := by simp; omega

theorem bound (h : EuclidInv a m oldR r oldS s) : |s| ≤ m := by
  have hr' := h.r_nonneg
  rcases h.started with hr | rfl
  · rcases h.signs with ⟨h₁, h₂, h₃⟩ | ⟨h₁, h₂, h₃⟩
    · rw [abs_of_nonpos h₂]; nlinarith
    · rw [abs_of_nonneg h₂]; nlinarith
  · simp

theorem step (h : EuclidInv a m oldR r oldS s) (hr : r ≠ 0) :
    EuclidInv a m r (oldR - oldR.tdiv r * r) s (oldS - oldR.tdiv r * s) := by
  have hr' : 0 < r := lt_of_le_of_ne h.r_nonneg (Ne.symm hr)
  have hmod : oldR - oldR.tdiv r * r = oldR.tmod r := by rw [Int.tmod_def]; ring
  have hq : 0 ≤ oldR.tdiv r := Int.tdiv_nonneg h.oldR_nonneg h.r_nonneg
  refine ⟨h.r_nonneg, ?_, .inl hr', ?_, h.modEq, ?_, ?_, h.bound⟩
  · rw [hmod]; exact Int.tmod_nonneg _ h.oldR_nonneg
  · rw [← h.gcd_eq, Int.gcd_comm oldR]
    have he : oldR - oldR.tdiv r * r = oldR + r * (-oldR.tdiv r) := by ring
    rw [he, Int.gcd_add_mul_left_right]
  · have h' := h.old_modEq.sub (h.modEq.mul_left (oldR.tdiv r))
    have he : (a : ℤ) * (oldS - oldR.tdiv r * s) = a * oldS - oldR.tdiv r * (a * s) := by ring
    rwa [he]
  · rcases h.signs with ⟨h₁, h₂, h₃⟩ | ⟨h₁, h₂, h₃⟩
    · exact .inr ⟨h₂, by nlinarith, by linear_combination h₃⟩
    · exact .inl ⟨h₂, by nlinarith, by linear_combination h₃⟩

end EuclidInv

theorem modInvLoop_inv {a m : ℕ} {oldR r oldS s : ℤ} (h : EuclidInv a m oldR r oldS s) :
    ∃ s', EuclidInv a m (modInvLoop oldR r oldS s).1 0 (modInvLoop oldR r oldS s).2 s' := by
  fun_induction modInvLoop oldR r oldS s with
  | case1 oldR oldS s => exact ⟨s, h⟩
  | case2 oldR r oldS s hr q ih => exact ih (h.step hr)

theorem modInvLoop_gcd (a : ℕ) {m : ℕ} (hm : 0 < m) :
    (modInvLoop a m 1 0).1 = Nat.gcd a m := by
  obtain ⟨s', h⟩ := modInvLoop_inv (EuclidInv.init (a := a) hm)
  have hg := h.gcd_eq
  rw [Int.gcd_zero_right] at hg
  rw [← hg, Int.natAbs_of_nonneg h.oldR_nonneg]

/-- When the gcd is one, the sign conversion at the end of the loop meets a number below the
modulus that inverts `a`. -/
theorem modInvLoop_coeff {a m : ℕ} (hm : 1 < m) (hg : Nat.gcd a m = 1) :
    let v := if (modInvLoop a m 1 0).2 < 0 then (modInvLoop a m 1 0).2 + m
      else (modInvLoop a m 1 0).2
    0 ≤ v ∧ v < m ∧ a * v ≡ 1 [ZMOD m] := by
  obtain ⟨s', h⟩ := modInvLoop_inv (EuclidInv.init (a := a) (by omega : 0 < m))
  have hone : (modInvLoop a m 1 0).1 = 1 := by rw [modInvLoop_gcd a (by omega), hg]; rfl
  have hmod := h.old_modEq
  rw [hone] at hmod
  have hb := abs_le.mp h.old_bound
  generalize (modInvLoop a m 1 0).2 = s at hmod hb
  intro v
  -- a coefficient of exactly ±m would make `a * s` divisible by `m > 1`
  have hne : ∀ k : ℤ, s ≠ k * m := by
    rintro k rfl
    have hd : (m : ℤ) ∣ 1 := by
      have := (Int.modEq_iff_dvd.mp hmod)
      have he : (1 : ℤ) = (1 - a * (k * m)) + m * (a * k) := by ring
      rw [he]; exact dvd_add this (dvd_mul_right _ _)
    have := Int.le_of_dvd one_pos hd
    omega
  have h₁ := hne 1
  have h₂ := hne (-1)
  by_cases hs : s < 0
  · have hv : v = s + m := if_pos hs
    rw [hv, mul_add]
    exact ⟨by omega, by omega, by simpa [Int.ModEq] using hmod⟩
  · have hv : v = s := if_neg hs
    rw [hv]
    exact ⟨by omega, by omega, hmod⟩

theorem modInv_eq_none_iff {a m : ℕ} (hm : 0 < m) : modInv a m = none ↔ Nat.gcd a m ≠ 1 := by
  unfold modInv
  have h := modInvLoop_gcd a hm
  rcases hl : modInvLoop a m 1 0 with ⟨g, s⟩
  rw [hl] at h
  simp only at h ⊢
  rw [h]
  split_ifs with hc <;> simp_all

theorem modInv_spec {a m x : ℕ} (hm : 1 < m) (h : modInv a m = some x) :
    x < m ∧ a * x ≡ 1 [MOD m] := by
  have hg : Nat.gcd a m = 1 := by
    by_contra hg
    rw [(modInv_eq_none_iff (by omega)).mpr hg] at h
    cases h
  obtain ⟨h0, hlt, hmod⟩ := modInvLoop_coeff hm hg
  have hone := modInvLoop_gcd a (by omega : 0 < m)
  rw [hg] at hone
  unfold modInv at h
  rcases hl : modInvLoop a m 1 0 with ⟨g, s⟩
  rw [hl] at h hone h0 hlt hmod
  simp only [Nat.cast_one] at h hone h0 hlt hmod
  subst hone
  rw [if_neg (not_not.mpr rfl), Option.some.injEq] at h
  rw [← Int.toNat_of_nonneg h0, h] at hlt hmod
  exact ⟨by exact_mod_cast hlt, Int.natCast_modEq_iff.mp (by exact_mod_cast hmod)⟩

/-! ## Points -/

/-- `x - y` modulo `p`, as the point formulas write it without negative numbers. -/
def subMod (x y p : ℕ) : ℕ :=
  if x ≥ y then (x - y) % p else (p - (y - x) % p) % p

/-- EC point doubling. -/
def ecDouble (pt : EcPoint) (a p : ℕ) : EcPoint :=
  if pt.infinity || pt.y == 0 then EcPoint.atInfinity
  else
    let numerator := (3 * pt.x * pt.x + a) % p
    let denominator := (2 * pt.y) % p
    match modInv denominator p with
    | none => EcPoint.atInfinity
    | some denomInv =>
      let lam := (numerator * denomInv) % p
      let x3 := subMod ((lam * lam) % p) ((2 * pt.x) % p) p
      let y3 := subMod ((lam * subMod pt.x x3 p) % p) pt.y p
      EcPoint.new x3 y3

/-- EC point addition on the curve `y² = x³ + ax + b (mod p)`. -/
def ecAdd (p1 p2 : EcPoint) (a p : ℕ) : EcPoint :=
  if p1.infinity then p2
  else if p2.infinity then p1
  else if p1.x = p2.x then
    if p1.y = p2.y ∧ p1.y ≠ 0 then ecDouble p1 a p else EcPoint.atInfinity
  else
    let dy := subMod p2.y p1.y p
    let dx := subMod p2.x p1.x p
    match modInv dx p with
    | none => EcPoint.atInfinity
    | some dxInv =>
      let lam := (dy * dxInv) % p
      let x3 := subMod ((lam * lam) % p) ((p1.x + p2.x) % p) p
      let y3 := subMod ((lam * subMod p1.x x3 p) % p) p1.y p
      EcPoint.new x3 y3

def ecMulLoop (a p : ℕ) (result base : EcPoint) (scalar : ℕ) : EcPoint :=
  if scalar = 0 then result
  else
    let result := if scalar.testBit 0 then ecAdd result base a p else result
    ecMulLoop a p result (ecDouble base a p) (scalar >>> 1)
termination_by scalar
decreasing_by rw [Nat.shiftRight_one]; omega

/-- Scalar multiplication using double-and-add. -/
def ecMul (k : ℕ) (pt : EcPoint) (a p : ℕ) : EcPoint :=
  if k = 0 then EcPoint.atInfinity
  else ecMulLoop a p EcPoint.atInfinity pt k

/-- True if `(x, y)` satisfies `y² ≡ x³ + ax + b (mod p)` and lies in the field. -/
def pointOnCurve (x y a b p : ℕ) : Bool :=
  if x ≥ p || y ≥ p then false
  else (y * y) % p == (((x * x) % p) * x + a * x + b) % p

end FreemkvUnlock.Aacs
