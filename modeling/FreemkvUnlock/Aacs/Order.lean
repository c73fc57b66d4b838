import FreemkvUnlock.Aacs.GroupLaw

/-! # The order of a point

A ladder in Jacobian coordinates multiplies a point by a scalar without modular inverses, so
that the order of a curve's generator is checked by evaluation.
-/

namespace FreemkvUnlock.Aacs

open WeierstrassCurve

/-- The affine point `(x / z², y / z³)`. -/
structure Jac where
  x : ℕ
  y : ℕ
  z : ℕ

namespace Jac

def double (a p : ℕ) (J : Jac) : Option Jac :=
  if J.y % p = 0 then none
  else
    let m := (3 * J.x * J.x + a * J.z ^ 4) % p
    let s := 4 * J.x * J.y ^ 2 % p
    let x := (m * m + 2 * (p - s)) % p
    some ⟨x, (m * (s + (p - x)) + 8 * (p - J.y ^ 4 % p)) % p, 2 * J.y * J.z % p⟩

def add (p x₂ y₂ : ℕ) (J : Jac) : Option Jac :=
  let h := (x₂ * J.z ^ 2 + (p - J.x % p)) % p
  let r := (y₂ * J.z ^ 3 + (p - J.y % p)) % p
  if h = 0 then none
  else
    let v := J.x * h ^ 2 % p
    let x := (r * r + (p - h ^ 3 % p) + 2 * (p - v)) % p
    some ⟨x, (r * (v + (p - x)) + (p - J.y * h ^ 3 % p)) % p, J.z * h % p⟩

/-- Run the low `i` bits of the scalar `k`, most significant first. -/
def ladder (a p x₂ y₂ k : ℕ) : ℕ → Jac → Option Jac
  | 0, J => some J
  | i + 1, J =>
    (double a p J).bind fun J =>
      (if k.testBit i then add p x₂ y₂ J else some J).bind (ladder a p x₂ y₂ k i)

/-- `k - 1` times the point is its negative. -/
def hasOrder (a p x₂ y₂ k : ℕ) : Bool :=
  match ladder a p x₂ y₂ (k - 1) (k - 1).log2 ⟨x₂, y₂, 1⟩ with
  | none => false
  | some J => 2 ≤ k && J.x % p == x₂ * J.z ^ 2 % p && (J.y + y₂ * J.z ^ 3) % p == 0

variable {a b p : ℕ}

/-- `J` stands for the point `Q` of the curve's group. -/
def Stands (a b : ℕ) [Fact p.Prime] (J : Jac) (Q : (shortCurve a b p).Point) : Prop :=
  (J.z : ZMod p) ≠ 0 ∧ ∃ h, Q = .some ((J.x : ZMod p) / J.z ^ 2) ((J.y : ZMod p) / J.z ^ 3) h

theorem cast_sub_mod (hp : 0 < p) (x : ℕ) : ((p - x % p : ℕ) : ZMod p) = -x := by
  rw [Nat.cast_sub (Nat.mod_lt _ hp).le, ZMod.natCast_self, ZMod.natCast_mod, zero_sub]

variable [Fact p.Prime] {J J' : Jac} {Q : (shortCurve a b p).Point}

theorem stands_third {x₁ x₂ y₁ ℓ : ZMod p} (hz : (J.z : ZMod p) ≠ 0)
    (hx : ℓ ^ 2 - x₁ - x₂ = J.x / J.z ^ 2) (hy : ℓ * (x₁ - J.x / J.z ^ 2) - y₁ = J.y / J.z ^ 3)
    (h : (shortCurve a b p).Nonsingular ((shortCurve a b p).addX x₁ x₂ ℓ)
      ((shortCurve a b p).addY x₁ x₂ y₁ ℓ)) : Stands a b J (.some _ _ h) := by
  have hX : (shortCurve a b p).addX x₁ x₂ ℓ = (J.x : ZMod p) / J.z ^ 2 := by
    rw [← hx]; simp [Affine.addX, shortCurve]
  have hY : (shortCurve a b p).addY x₁ x₂ y₁ ℓ = (J.y : ZMod p) / J.z ^ 3 := by
    rw [← hy, ← hx]
    simp [Affine.addY, Affine.negAddY, Affine.negY, Affine.addX, shortCurve]
    ring
  refine ⟨hz, hX ▸ hY ▸ h, ?_⟩
  simp only [Affine.Point.some.injEq]
  exact ⟨hX, hY⟩

theorem Stands.double (hc : CurveParams a b p) (hJ : Stands a b J Q)
    (h : J.double a p = some J') : Stands a b J' (Q + Q) := by
  have hp := hc.prime.pos
  obtain ⟨hz, hns, rfl⟩ := hJ
  unfold Jac.double at h
  split_ifs at h with hy
  have hy0 : (J.y : ZMod p) ≠ 0 := fun h0 =>
    hy (Nat.mod_eq_zero_of_dvd ((ZMod.natCast_eq_zero_iff _ _).mp h0))
  have h2 := hc.two_ne_zero
  obtain rfl := Option.some.inj h
  have hne : (J.y : ZMod p) / J.z ^ 3 ≠
      (shortCurve a b p).negY (J.x / J.z ^ 2) (J.y / J.z ^ 3) := by
    rw [Represents.negY_eq]
    intro he
    have h0 : (2 : ZMod p) * (J.y / J.z ^ 3) = 0 := by linear_combination he
    exact mul_ne_zero h2 (div_ne_zero hy0 (pow_ne_zero _ hz)) h0
  rw [Affine.Point.add_self_of_Y_ne hne]
  have hslope : (shortCurve a b p).slope ((J.x : ZMod p) / J.z ^ 2) (J.x / J.z ^ 2) (J.y / J.z ^ 3)
      (J.y / J.z ^ 3) = (3 * J.x ^ 2 + a * J.z ^ 4) / (2 * J.y * J.z) := by
    rw [Affine.slope_of_Y_ne rfl hne, Represents.negY_eq]
    simp only [shortCurve]
    have hden : (J.y : ZMod p) / J.z ^ 3 - -(J.y / J.z ^ 3) = 2 * J.y / J.z ^ 3 := by ring
    rw [hden]
    field_simp
    ring
  refine stands_third ?_ ?_ ?_ _
  · simp only [ZMod.natCast_mod, Nat.cast_mul, Nat.cast_ofNat]
    exact mul_ne_zero (mul_ne_zero h2 hy0) hz
  · rw [hslope]
    simp only [ZMod.natCast_mod, Nat.cast_add, Nat.cast_mul, Nat.cast_pow, Nat.cast_ofNat,
      cast_sub_mod hp]
    field_simp
    ring
  · rw [hslope]
    simp only [ZMod.natCast_mod, Nat.cast_add, Nat.cast_mul, Nat.cast_pow, Nat.cast_ofNat,
      cast_sub_mod hp]
    field_simp
    ring

theorem Stands.add {x₂ y₂ : ℕ} (hp : 0 < p) (hJ : Stands a b J Q)
    (hG : (shortCurve a b p).Nonsingular (x₂ : ZMod p) (y₂ : ZMod p))
    (h : J.add p x₂ y₂ = some J') : Stands a b J' (Q + .some _ _ hG) := by
  obtain ⟨hz, hns, rfl⟩ := hJ
  unfold Jac.add at h
  simp only at h
  split_ifs at h with hh
  obtain rfl := Option.some.inj h
  have hh0 : (x₂ : ZMod p) * J.z ^ 2 - J.x ≠ 0 := by
    intro h0
    apply hh
    have hcast : ((x₂ * J.z ^ 2 + (p - J.x % p) : ℕ) : ZMod p) = 0 := by
      push_cast [cast_sub_mod hp]; rw [← sub_eq_add_neg]; exact h0
    exact Nat.mod_eq_zero_of_dvd ((ZMod.natCast_eq_zero_iff _ _).mp hcast)
  have hne : (J.x : ZMod p) / J.z ^ 2 ≠ x₂ := by
    intro he
    rw [div_eq_iff (pow_ne_zero _ hz)] at he
    exact hh0 (by rw [he, sub_self])
  rw [Affine.Point.add_of_X_ne hne]
  have hslope : (shortCurve a b p).slope ((J.x : ZMod p) / J.z ^ 2) x₂ (J.y / J.z ^ 3) y₂ =
      (y₂ * J.z ^ 3 - J.y) / (J.z * (x₂ * J.z ^ 2 - J.x)) := by
    rw [Affine.slope_of_X_ne hne]
    have hd : (J.x : ZMod p) / J.z ^ 2 - x₂ ≠ 0 := sub_ne_zero.mpr hne
    have hd' : (J.x : ZMod p) / J.z ^ 2 - x₂ = -(x₂ * J.z ^ 2 - J.x) / J.z ^ 2 := by
      field_simp; ring
    rw [hd']
    field_simp
    ring
  -- from here the ordinate and abscissa differences are variables of their own
  obtain ⟨H, hH⟩ : ∃ H : ZMod p, H = x₂ * J.z ^ 2 - J.x := ⟨_, rfl⟩
  obtain ⟨R, hR⟩ : ∃ R : ZMod p, R = y₂ * J.z ^ 3 - J.y := ⟨_, rfl⟩
  have hx₂ : (x₂ : ZMod p) = (H + J.x) / J.z ^ 2 := by rw [hH]; field_simp; ring
  rw [← hH] at hh0
  refine stands_third ?_ ?_ ?_ _
  · simp only [ZMod.natCast_mod, Nat.cast_add, Nat.cast_mul, Nat.cast_pow, cast_sub_mod hp,
      ← sub_eq_add_neg, ← hH]
    exact mul_ne_zero hz hh0
  · simp only [ZMod.natCast_mod, Nat.cast_add, Nat.cast_mul, Nat.cast_pow, Nat.cast_ofNat,
      cast_sub_mod hp, ← sub_eq_add_neg, hslope, ← hH, ← hR]
    rw [hx₂]
    field_simp
    ring
  · simp only [ZMod.natCast_mod, Nat.cast_add, Nat.cast_mul, Nat.cast_pow, Nat.cast_ofNat,
      cast_sub_mod hp, ← sub_eq_add_neg, hslope, ← hH, ← hR]
    field_simp

theorem Stands.ladder {x₂ y₂ k i : ℕ} (hc : CurveParams a b p)
    (hG : (shortCurve a b p).Nonsingular (x₂ : ZMod p) (y₂ : ZMod p))
    (hJ : Stands a b J ((k >>> i) • Affine.Point.some _ _ hG))
    (h : J.ladder a p x₂ y₂ k i = some J') : Stands a b J' (k • Affine.Point.some _ _ hG) := by
  induction i generalizing J with
  | zero =>
    obtain rfl := Option.some.inj h
    simpa using hJ
  | succ i ih =>
    simp only [Jac.ladder, Option.bind_eq_some_iff] at h
    obtain ⟨J₁, h₁, J₂, h₂, h⟩ := h
    have hd := hJ.double hc h₁
    rw [← two_nsmul, ← mul_nsmul'] at hd
    have hbit : k >>> i = 2 * (k >>> (i + 1)) + (k.testBit i).toNat := by
      rw [Nat.shiftRight_succ, Nat.testBit_eq_decide_div_mod_eq, Nat.shiftRight_eq_div_pow]
      rcases Nat.mod_two_eq_zero_or_one (k / 2 ^ i) with h0 | h0 <;> simp [h0] <;> omega
    refine ih ?_ h
    rw [hbit]
    split_ifs at h₂ with hb
    · rw [hb, Bool.toNat_true, add_nsmul, one_nsmul]
      exact hd.add hc.prime.pos hG h₂
    · obtain rfl := Option.some.inj h₂
      rw [Bool.not_eq_true] at hb
      rwa [hb, Bool.toNat_false, add_zero]

theorem nsmul_eq_zero_of_hasOrder {x₂ y₂ k : ℕ} (hc : CurveParams a b p)
    (hG : (shortCurve a b p).Nonsingular (x₂ : ZMod p) (y₂ : ZMod p))
    (h : hasOrder a p x₂ y₂ k = true) : k • Affine.Point.some _ _ hG = 0 := by
  unfold hasOrder at h
  split at h
  · cases h
  · rename_i J hJ
    simp only [Bool.and_eq_true, decide_eq_true_eq, beq_iff_eq] at h
    obtain ⟨⟨hk, hx⟩, hy⟩ := h
    have hstart : Stands a b ⟨x₂, y₂, 1⟩
        (((k - 1) >>> (k - 1).log2) • Affine.Point.some _ _ hG) := by
      have hone : (k - 1) >>> (k - 1).log2 = 1 := by
        rw [Nat.shiftRight_eq_div_pow]
        refine Nat.div_eq_of_lt_le ?_ ?_
        · rw [one_mul]; exact Nat.log2_self_le (by omega)
        · rw [one_add_one_eq_two, mul_comm, ← pow_succ]; exact Nat.lt_log2_self
      rw [hone, one_nsmul]
      refine ⟨by simp, by simpa using hG, by simp⟩
    obtain ⟨hz, hns, hQ⟩ := Stands.ladder hc hG hstart hJ
    have hxc : (J.x : ZMod p) = x₂ * J.z ^ 2 := by
      have := (ZMod.natCast_eq_natCast_iff' _ _ _).mpr hx
      exact_mod_cast this
    have hyc : (J.y : ZMod p) = -(y₂ * J.z ^ 3) := by
      have := (ZMod.natCast_eq_zero_iff _ _).mpr (Nat.dvd_of_mod_eq_zero hy)
      push_cast at this
      exact eq_neg_of_add_eq_zero_left this
    have hsucc : k = (k - 1) + 1 := by omega
    rw [hsucc, add_nsmul, one_nsmul, hQ]
    refine Affine.Point.add_of_Y_eq ?_ ?_
    · rw [hxc]; field_simp
    · rw [Represents.negY_eq, hyc]; field_simp

end Jac

end FreemkvUnlock.Aacs
