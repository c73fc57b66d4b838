import Mathlib.AlgebraicGeometry.EllipticCurve.Affine.Point
import Mathlib.FieldTheory.Finite.Basic
import FreemkvUnlock.Aacs.Curve

/-! # The elliptic curve group law

The point formulas compute in the group of the Weierstrass curve over `ZMod p`: addition and
doubling are the chord-and-tangent sum in every case, and scalar multiplication is the
repeated sum.
-/

namespace FreemkvUnlock.Aacs

open WeierstrassCurve

def shortCurve (a b p : ℕ) : WeierstrassCurve.Affine (ZMod p) := ⟨0, 0, 0, a, b⟩

/-- Infinity, or a canonical solution of the curve equation. -/
def OnCurve (a b p : ℕ) (P : EcPoint) : Prop :=
  P = EcPoint.atInfinity ∨ P.infinity = false ∧ pointOnCurve P.x P.y a b p = true

/-- A nonsingular curve over a prime field of characteristic above three. -/
structure CurveParams (a b p : ℕ) : Prop where
  prime : p.Prime
  three_lt : 3 < p
  disc : (4 * a ^ 3 + 27 * b ^ 2) % p ≠ 0

section Field

variable {p : ℕ}

theorem cast_subMod (hp : 0 < p) (x y : ℕ) : (subMod x y p : ZMod p) = x - y := by
  unfold subMod
  split_ifs with h
  · rw [ZMod.natCast_mod, Nat.cast_sub h]
  · have hlt : (y - x) % p < p := Nat.mod_lt _ hp
    rw [ZMod.natCast_mod, Nat.cast_sub hlt.le, ZMod.natCast_mod, ZMod.natCast_self,
      Nat.cast_sub (by omega)]
    ring

theorem subMod_lt (hp : 0 < p) (x y : ℕ) : subMod x y p < p := by
  unfold subMod; split_ifs <;> exact Nat.mod_lt _ hp

theorem cast_inj {x y : ℕ} (hx : x < p) (hy : y < p) : (x : ZMod p) = y ↔ x = y := by
  rw [ZMod.natCast_eq_natCast_iff', Nat.mod_eq_of_lt hx, Nat.mod_eq_of_lt hy]

variable [Fact p.Prime]

theorem cast_modInv {a x : ℕ} (h : modInv a p = some x) : (x : ZMod p) = (a : ZMod p)⁻¹ := by
  have hmul : ((a * x : ℕ) : ZMod p) = (1 : ℕ) :=
    (ZMod.natCast_eq_natCast_iff _ _ _).mpr (modInv_spec (Fact.out : p.Prime).one_lt h).2
  push_cast at hmul
  exact eq_inv_of_mul_eq_one_right hmul

theorem modInv_isSome {a : ℕ} (ha : (a : ZMod p) ≠ 0) : ∃ x, modInv a p = some x := by
  have hp := (Fact.out : p.Prime)
  rw [← Option.ne_none_iff_exists', ne_eq, modInv_eq_none_iff hp.pos, not_not]
  exact ((hp.coprime_iff_not_dvd).mpr fun hd => ha ((ZMod.natCast_eq_zero_iff _ _).mpr hd)).symm

end Field

section Represents

variable {a b p : ℕ}

theorem shortCurve_equation_iff {x y : ZMod p} :
    (shortCurve a b p).Equation x y ↔ y ^ 2 = x ^ 3 + a * x + b := by
  simp [Affine.equation_iff, shortCurve]

theorem CurveParams.two_ne_zero (h : CurveParams a b p) : (2 : ZMod p) ≠ 0 := by
  have hlt := h.three_lt
  have hne : ((2 : ℕ) : ZMod p) ≠ (0 : ℕ) :=
    (cast_inj (by omega) (by omega)).not.mpr (by norm_num)
  exact_mod_cast hne

theorem CurveParams.delta_ne_zero (h : CurveParams a b p) : (shortCurve a b p).Δ ≠ 0 := by
  have : Fact p.Prime := ⟨h.prime⟩
  have hd : (shortCurve a b p).Δ = -(2 ^ 4 * ((4 * a ^ 3 + 27 * b ^ 2 : ℕ) : ZMod p)) := by
    simp [WeierstrassCurve.Δ, b₂, b₄, b₆, b₈, shortCurve]; ring
  rw [hd, neg_ne_zero]
  refine mul_ne_zero (pow_ne_zero _ h.two_ne_zero) fun h0 => h.disc ?_
  exact Nat.mod_eq_zero_of_dvd ((ZMod.natCast_eq_zero_iff _ _).mp h0)

theorem CurveParams.nonsingular (h : CurveParams a b p) {x y : ZMod p}
    (he : y ^ 2 = x ^ 3 + a * x + b) : (shortCurve a b p).Nonsingular x y :=
  ((shortCurve a b p).equation_iff_nonsingular_of_Δ_ne_zero h.delta_ne_zero).mp
    (shortCurve_equation_iff.mpr he)

theorem pointOnCurve_iff {x y : ℕ} :
    pointOnCurve x y a b p = true ↔
      x < p ∧ y < p ∧ (y : ZMod p) ^ 2 = (x : ZMod p) ^ 3 + a * x + b := by
  unfold pointOnCurve
  split_ifs with h
  · simp only [ge_iff_le, Bool.or_eq_true, decide_eq_true_eq] at h
    simp only [false_iff, not_and]
    omega
  · simp only [ge_iff_le, Bool.or_eq_true, decide_eq_true_eq, not_or, not_le] at h
    simp only [h.1, h.2, true_and, beq_iff_eq]
    rw [← ZMod.natCast_eq_natCast_iff']
    push_cast [ZMod.natCast_mod]
    rw [pow_two, pow_succ, pow_two]

/-- The code's point `P` stands for the point `Q` of the curve's group. -/
inductive Represents (a b p : ℕ) : EcPoint → (shortCurve a b p).Point → Prop
  | infinity : Represents a b p EcPoint.atInfinity 0
  | affine {x y : ℕ} (hx : x < p) (hy : y < p)
      (h : (shortCurve a b p).Nonsingular (x : ZMod p) (y : ZMod p)) :
      Represents a b p (EcPoint.new x y) (.some _ _ h)

namespace Represents

variable {P Q : EcPoint} {X Y : (shortCurve a b p).Point}

theorem onCurve (h : Represents a b p P X) : OnCurve a b p P := by
  cases h with
  | infinity => exact .inl rfl
  | affine hx hy h =>
    exact .inr ⟨rfl, pointOnCurve_iff.mpr ⟨hx, hy, shortCurve_equation_iff.mp h.1⟩⟩

theorem unique (h : Represents a b p P X) (h' : Represents a b p P Y) : X = Y := by
  cases h with
  | infinity => cases h'; rfl
  | affine => cases h'; rfl

theorem injective (h : Represents a b p P X) (h' : Represents a b p Q X) : P = Q := by
  cases h with
  | infinity => cases h'; rfl
  | @affine x y hx hy h =>
    generalize hZ : Affine.Point.some _ _ h = Z at h'
    cases h' with
    | infinity => simp at hZ
    | affine hx' hy' h' =>
      rw [Affine.Point.some.injEq, cast_inj hx hx', cast_inj hy hy'] at hZ
      obtain ⟨rfl, rfl⟩ := hZ
      rfl

theorem ecDouble_eq {x y inv : ℕ} (hy : y ≠ 0) (hinv : modInv (2 * y % p) p = some inv) :
    let lam := (3 * x * x + a) % p * inv % p
    let x3 := subMod (lam * lam % p) (2 * x % p) p
    ecDouble (EcPoint.new x y) a p =
      EcPoint.new x3 (subMod (lam * subMod x x3 p % p) y p) := by
  simp [ecDouble, EcPoint.new, hy, hinv]

theorem ecAdd_eq {x₁ y₁ x₂ y₂ inv : ℕ} (hx : x₁ ≠ x₂)
    (hinv : modInv (subMod x₂ x₁ p) p = some inv) :
    let lam := subMod y₂ y₁ p * inv % p
    let x3 := subMod (lam * lam % p) ((x₁ + x₂) % p) p
    ecAdd (EcPoint.new x₁ y₁) (EcPoint.new x₂ y₂) a p =
      EcPoint.new x3 (subMod (lam * subMod x₁ x3 p % p) y₁ p) := by
  simp [ecAdd, EcPoint.new, hx, hinv]

variable [Fact p.Prime]

/-- The result of a chord or tangent with slope `lam`, with coordinates as the code writes
them. -/
theorem third {x₁ x₂ y₁ x3 y3 lam : ℕ} {ℓ : ZMod p} (hp : 0 < p)
    (hl : (lam : ZMod p) = ℓ) (hx3 : (x3 : ZMod p) = ℓ ^ 2 - x₁ - x₂)
    (hlt : x3 < p)
    (hy3 : y3 = subMod ((lam * subMod x₁ x3 p) % p) y₁ p)
    (h : (shortCurve a b p).Nonsingular ((shortCurve a b p).addX x₁ x₂ ℓ)
      ((shortCurve a b p).addY x₁ x₂ y₁ ℓ)) :
    Represents a b p (EcPoint.new x3 y3) (.some _ _ h) := by
  have hX : (shortCurve a b p).addX x₁ x₂ ℓ = (x3 : ZMod p) := by
    rw [hx3]; simp [Affine.addX, shortCurve]
  have hY : (shortCurve a b p).addY x₁ x₂ y₁ ℓ = (y3 : ZMod p) := by
    rw [hy3, cast_subMod hp, ZMod.natCast_mod, Nat.cast_mul, cast_subMod hp, hl, hx3]
    simp [Affine.addY, Affine.negAddY, Affine.negY, Affine.addX, shortCurve]
    ring
  have hs : (Affine.Point.some _ _ h : (shortCurve a b p).Point) =
      .some (x3 : ZMod p) (y3 : ZMod p) (hX ▸ hY ▸ h) := by
    simp only [Affine.Point.some.injEq]; exact ⟨hX, hY⟩
  rw [hs]
  exact .affine hlt (hy3 ▸ subMod_lt hp _ _) _

theorem negY_eq (u v : ZMod p) : (shortCurve a b p).negY u v = -v := by
  simp [Affine.negY, shortCurve]

theorem double (hc : CurveParams a b p) (h : Represents a b p P X) :
    Represents a b p (ecDouble P a p) (X + X) := by
  have hp := hc.prime.pos
  cases h with
  | infinity => rw [add_zero]; exact infinity
  | @affine x y hx hy h =>
    rcases Nat.eq_zero_or_pos y with rfl | hy0
    · rw [Affine.Point.add_self_of_Y_eq (by rw [negY_eq]; simp)]
      exact infinity
    · have hyc : (y : ZMod p) ≠ 0 := fun h0 => by
        have := (cast_inj hy hp).mp (by simpa using h0); omega
      have hden : ((2 * y % p : ℕ) : ZMod p) = 2 * y := by
        rw [ZMod.natCast_mod]; push_cast; rfl
      have hne : (y : ZMod p) ≠ (shortCurve a b p).negY x y := by
        rw [negY_eq]; intro he
        exact mul_ne_zero hc.two_ne_zero hyc (by linear_combination he)
      rw [Affine.Point.add_self_of_Y_ne hne]
      obtain ⟨inv, hinv⟩ := modInv_isSome (p := p) (a := 2 * y % p)
        (by rw [hden]; exact mul_ne_zero hc.two_ne_zero hyc)
      have hlam : (((3 * x * x + a) % p * inv % p : ℕ) : ZMod p) =
          (shortCurve a b p).slope x x y y := by
        rw [Affine.slope_of_Y_ne rfl hne, negY_eq, ZMod.natCast_mod, Nat.cast_mul,
          ZMod.natCast_mod, cast_modInv hinv, hden]
        have h2 : (y : ZMod p) - -(y : ZMod p) = 2 * y := by ring
        simp only [shortCurve, h2]
        push_cast
        rw [div_eq_mul_inv]
        ring
      rw [ecDouble_eq hy0.ne' hinv]
      refine third hp hlam ?_ (subMod_lt hp _ _) rfl _
      rw [cast_subMod hp, ZMod.natCast_mod, ZMod.natCast_mod, Nat.cast_mul, hlam]
      push_cast
      ring

theorem add (hc : CurveParams a b p) (hP : Represents a b p P X) (hQ : Represents a b p Q Y) :
    Represents a b p (ecAdd P Q a p) (X + Y) := by
  have hp := hc.prime.pos
  cases hP with
  | infinity => rw [zero_add]; exact hQ
  | @affine x₁ y₁ hx₁ hy₁ h₁ =>
    cases hQ with
    | infinity => rw [add_zero]; exact affine hx₁ hy₁ h₁
    | @affine x₂ y₂ hx₂ hy₂ h₂ =>
      by_cases hx : x₁ = x₂
      · subst hx
        by_cases hy : y₁ = y₂ ∧ y₁ ≠ 0
        · obtain ⟨rfl, hy0⟩ := hy
          have hd : ecAdd (EcPoint.new x₁ y₁) (EcPoint.new x₁ y₁) a p =
              ecDouble (EcPoint.new x₁ y₁) a p := by simp [ecAdd, EcPoint.new, hy0]
          rw [hd]
          exact double hc (affine hx₁ hy₁ h₁)
        · have hd : ecAdd (EcPoint.new x₁ y₁) (EcPoint.new x₁ y₂) a p = EcPoint.atInfinity := by
            simp [ecAdd, EcPoint.new, hy]
          rw [hd, Affine.Point.add_of_Y_eq rfl]
          · exact infinity
          · rw [negY_eq]
            have he₁ := shortCurve_equation_iff.mp h₁.1
            have he₂ := shortCurve_equation_iff.mp h₂.1
            have hsq : ((y₁ : ZMod p) - y₂) * (y₁ + y₂) = 0 := by
              linear_combination he₁ - he₂
            rcases mul_eq_zero.mp hsq with h0 | h0
            · have hyy : y₁ = y₂ := (cast_inj hy₁ hy₂).mp (sub_eq_zero.mp h0)
              have hy0 : y₁ = 0 := by tauto
              subst hyy; subst hy0; simp
            · exact eq_neg_of_add_eq_zero_left h0
      · have hxc : (x₁ : ZMod p) ≠ x₂ := (cast_inj hx₁ hx₂).not.mpr hx
        obtain ⟨inv, hinv⟩ := modInv_isSome (p := p) (a := subMod x₂ x₁ p)
          (by rw [cast_subMod hp]; exact sub_ne_zero.mpr hxc.symm)
        have hlam : ((subMod y₂ y₁ p * inv % p : ℕ) : ZMod p) =
            (shortCurve a b p).slope x₁ x₂ y₁ y₂ := by
          rw [Affine.slope_of_X_ne hxc, ZMod.natCast_mod, Nat.cast_mul, cast_modInv hinv,
            cast_subMod hp, cast_subMod hp, ← neg_sub (y₁ : ZMod p), ← neg_sub (x₁ : ZMod p),
            inv_neg, neg_mul_neg, div_eq_mul_inv]
        rw [ecAdd_eq hx hinv, Affine.Point.add_of_X_ne hxc]
        refine third hp hlam ?_ (subMod_lt hp _ _) rfl _
        rw [cast_subMod hp, ZMod.natCast_mod, ZMod.natCast_mod, Nat.cast_mul, hlam]
        push_cast
        ring

theorem mulLoop (hc : CurveParams a b p) (hP : Represents a b p P X)
    (hQ : Represents a b p Q Y) (k : ℕ) :
    Represents a b p (ecMulLoop a p P Q k) (X + k • Y) := by
  fun_induction ecMulLoop a p P Q k generalizing X Y with
  | case1 P Q => simpa using hP
  | case2 P Q k hk R =>
    rename_i ih
    have hk2 : k = 2 * (k >>> 1) + k % 2 := by rw [Nat.shiftRight_one]; omega
    have hsum : X + k • Y = (X + (k % 2) • Y) + (k >>> 1) • (Y + Y) := by
      conv_lhs => rw [hk2, add_nsmul, mul_comm, mul_nsmul', two_nsmul]
      abel
    rw [hsum]
    refine ih ?_ (double hc hQ)
    simp only [R, Nat.testBit_zero, decide_eq_true_eq]
    split_ifs with hb
    · rw [hb, one_nsmul]; exact add hc hP hQ
    · rw [Nat.mod_two_ne_one.mp hb, zero_nsmul, add_zero]; exact hP

theorem mul (hc : CurveParams a b p) (hP : Represents a b p P X) (k : ℕ) :
    Represents a b p (ecMul k P a p) (k • X) := by
  unfold ecMul
  split_ifs with hk
  · rw [hk, zero_nsmul]; exact infinity
  · simpa using mulLoop hc infinity hP k

end Represents

/-- Every admissible point of the code stands for a point of the group. -/
theorem OnCurve.represents {P : EcPoint} (hc : CurveParams a b p) (h : OnCurve a b p P) :
    ∃ X, Represents a b p P X := by
  obtain ⟨x, y, inf⟩ := P
  rcases h with h | ⟨h, hon⟩
  · exact ⟨0, h ▸ .infinity⟩
  · obtain ⟨hx, hy, he⟩ := pointOnCurve_iff.mp hon
    simp only at h
    subst h
    exact ⟨_, .affine hx hy (hc.nonsingular he)⟩

theorem OnCurve.infinity : OnCurve a b p EcPoint.atInfinity := .inl rfl

theorem OnCurve.add {P Q : EcPoint} (hc : CurveParams a b p) (hP : OnCurve a b p P)
    (hQ : OnCurve a b p Q) : OnCurve a b p (ecAdd P Q a p) := by
  have : Fact p.Prime := ⟨hc.prime⟩
  obtain ⟨X, hX⟩ := hP.represents hc
  obtain ⟨Y, hY⟩ := hQ.represents hc
  exact (hX.add hc hY).onCurve

theorem OnCurve.mul {P : EcPoint} (hc : CurveParams a b p) (hP : OnCurve a b p P) (k : ℕ) :
    OnCurve a b p (ecMul k P a p) := by
  have : Fact p.Prime := ⟨hc.prime⟩
  obtain ⟨X, hX⟩ := hP.represents hc
  exact (hX.mul hc k).onCurve

theorem ecMul_add {P : EcPoint} (hc : CurveParams a b p) (hP : OnCurve a b p P) (j k : ℕ) :
    ecMul (j + k) P a p = ecAdd (ecMul j P a p) (ecMul k P a p) a p := by
  have : Fact p.Prime := ⟨hc.prime⟩
  obtain ⟨X, hX⟩ := hP.represents hc
  have hsum := (hX.mul hc j).add hc (hX.mul hc k)
  rw [← add_nsmul] at hsum
  exact (hX.mul hc (j + k)).injective hsum

theorem ecMul_mul {P : EcPoint} (hc : CurveParams a b p) (hP : OnCurve a b p P) (j k : ℕ) :
    ecMul j (ecMul k P a p) a p = ecMul (j * k) P a p := by
  have : Fact p.Prime := ⟨hc.prime⟩
  obtain ⟨X, hX⟩ := hP.represents hc
  have hprod := (hX.mul hc k).mul hc j
  rw [← mul_nsmul'] at hprod
  exact hprod.injective (hX.mul hc (j * k))

/-- Addition is the chord-and-tangent sum and multiplication the repeated sum, on infinity and
every canonical point of the curve. -/
theorem ecAdd_ecMul_groupLaw [Fact p.Prime] {P Q : EcPoint} (hc : CurveParams a b p)
    (hP : OnCurve a b p P) (hQ : OnCurve a b p Q) :
    (∃ X Y, Represents a b p P X ∧ Represents a b p Q Y ∧
      Represents a b p (ecAdd P Q a p) (X + Y) ∧
      ∀ k : ℕ, Represents a b p (ecMul k P a p) (k • X)) ∧
    OnCurve a b p (ecAdd P Q a p) ∧
    (∀ k, OnCurve a b p (ecMul k P a p)) ∧
    (∀ j k, ecMul (j + k) P a p = ecAdd (ecMul j P a p) (ecMul k P a p) a p) ∧
    ∀ j k, ecMul j (ecMul k P a p) a p = ecMul (j * k) P a p := by
  obtain ⟨X, hX⟩ := hP.represents hc
  obtain ⟨Y, hY⟩ := hQ.represents hc
  exact ⟨⟨X, Y, hX, hY, hX.add hc hY, hX.mul hc⟩, hP.add hc hQ, hP.mul hc, ecMul_add hc hP,
    ecMul_mul hc hP⟩

theorem ecAdd_ecMul_groupLaw_five :
    OnCurve 1 1 5 (ecAdd (EcPoint.new 0 1) (EcPoint.new 2 1) 1 5) ∧
      ∀ j k, ecMul (j + k) (EcPoint.new 0 1) 1 5 =
        ecAdd (ecMul j (EcPoint.new 0 1) 1 5) (ecMul k (EcPoint.new 0 1) 1 5) 1 5 := by
  have : Fact (Nat.Prime 5) := ⟨Nat.prime_five⟩
  have h := ecAdd_ecMul_groupLaw (a := 1) (b := 1) (p := 5) ⟨Nat.prime_five, by norm_num, by decide⟩
    (.inr ⟨rfl, by decide⟩ : OnCurve 1 1 5 (EcPoint.new 0 1))
    (.inr ⟨rfl, by decide⟩ : OnCurve 1 1 5 (EcPoint.new 2 1))
  exact ⟨h.2.1, h.2.2.2.1⟩

end Represents

end FreemkvUnlock.Aacs
