import FreemkvUnlock.Aacs.Curve

/-! # Arithmetic that cannot fail

The handshake computes with unbounded naturals whose subtraction fails when it would go below
zero, and converts a signed coefficient back at the end of the inverse. Here each of these may
fail; on every input above a modulus of zero none does.
-/

namespace FreemkvUnlock.Aacs

variable {a m p x y : ℕ}

/-! ## Partial operations -/

/-- Subtraction of naturals; `none` is an underflow. -/
def checkedSub (x y : ℕ) : Option ℕ := if y ≤ x then some (x - y) else none

/-- A signed number as a natural; `none` is a negative one. -/
def toBiguint (z : ℤ) : Option ℕ := if 0 ≤ z then some z.toNat else none

/-- The inverse with its conversion; `none` is a failed conversion. -/
def checkedModInv (a m : ℕ) : Option (Option ℕ) :=
  let (oldR, oldS) := modInvLoop a m 1 0
  if oldR ≠ 1 then some none
  else (toBiguint (if oldS < 0 then oldS + m else oldS)).map some

/-- `x - y` modulo `p`. -/
def checkedSubMod (x y p : ℕ) : Option ℕ :=
  if x ≥ y then do
    return (← checkedSub x y) % p
  else do
    let d ← checkedSub y x
    return (← checkedSub p (d % p)) % p

def checkedDouble (pt : EcPoint) (a p : ℕ) : Option EcPoint :=
  if pt.infinity || pt.y == 0 then some EcPoint.atInfinity
  else do
    let numerator := (3 * pt.x * pt.x + a) % p
    let denominator := (2 * pt.y) % p
    match ← checkedModInv denominator p with
    | none => return EcPoint.atInfinity
    | some denomInv =>
      let lam := (numerator * denomInv) % p
      let x3 ← checkedSubMod ((lam * lam) % p) ((2 * pt.x) % p) p
      let diff ← checkedSubMod pt.x x3 p
      let y3 ← checkedSubMod ((lam * diff) % p) pt.y p
      return EcPoint.new x3 y3

def checkedAdd (p1 p2 : EcPoint) (a p : ℕ) : Option EcPoint :=
  if p1.infinity then some p2
  else if p2.infinity then some p1
  else if p1.x = p2.x then
    if p1.y = p2.y ∧ p1.y ≠ 0 then checkedDouble p1 a p else some EcPoint.atInfinity
  else do
    let dy ← checkedSubMod p2.y p1.y p
    let dx ← checkedSubMod p2.x p1.x p
    match ← checkedModInv dx p with
    | none => return EcPoint.atInfinity
    | some dxInv =>
      let lam := (dy * dxInv) % p
      let x3 ← checkedSubMod ((lam * lam) % p) ((p1.x + p2.x) % p) p
      let diff ← checkedSubMod p1.x x3 p
      let y3 ← checkedSubMod ((lam * diff) % p) p1.y p
      return EcPoint.new x3 y3

/-! ## No failure -/

theorem checkedSub_eq (h : y ≤ x) : checkedSub x y = some (x - y) := if_pos h

/-- A coefficient of the loop is at least `-m`, so one addition of `m` is enough. -/
theorem modInvLoop_nonneg (a : ℕ) (hm : 0 < m) :
    0 ≤ if (modInvLoop a m 1 0).2 < 0 then (modInvLoop a m 1 0).2 + m
      else (modInvLoop a m 1 0).2 := by
  obtain ⟨s', h⟩ := modInvLoop_inv (EuclidInv.init (a := a) hm)
  have := (abs_le.mp h.old_bound).1
  split_ifs <;> omega

theorem checkedModInv_eq (a : ℕ) (hm : 0 < m) : checkedModInv a m = some (modInv a m) := by
  have h := modInvLoop_nonneg a hm
  unfold checkedModInv modInv
  rcases hl : modInvLoop a m 1 0 with ⟨oldR, oldS⟩
  rw [hl] at h
  dsimp only at h ⊢
  rw [toBiguint, if_pos h, Option.map_some]
  split_ifs <;> rfl

/-- Both subtractions stay above zero: of the compared numbers the smaller is taken off, and a
remainder is smaller than its modulus. -/
theorem checkedSubMod_eq (hp : 0 < p) : checkedSubMod x y p = some (subMod x y p) := by
  unfold checkedSubMod subMod
  split_ifs with h
  · rw [checkedSub_eq h]
    rfl
  · have hle : (y - x) % p ≤ p := (Nat.mod_lt _ hp).le
    rw [checkedSub_eq (Nat.le_of_not_ge h), Option.bind_eq_bind, Option.bind_some,
      checkedSub_eq hle]
    rfl

theorem checkedDouble_eq (pt : EcPoint) (a : ℕ) (hp : 0 < p) :
    checkedDouble pt a p = some (ecDouble pt a p) := by
  unfold checkedDouble ecDouble
  simp only [checkedModInv_eq _ hp, checkedSubMod_eq hp, Option.bind_eq_bind, Option.bind_some]
  split_ifs
  · rfl
  · cases modInv ((2 * pt.y) % p) p <;> rfl

theorem checkedAdd_eq (p1 p2 : EcPoint) (a : ℕ) (hp : 0 < p) :
    checkedAdd p1 p2 a p = some (ecAdd p1 p2 a p) := by
  unfold checkedAdd ecAdd
  simp only [checkedModInv_eq _ hp, checkedSubMod_eq hp, checkedDouble_eq _ _ hp,
    Option.bind_eq_bind, Option.bind_some]
  split_ifs
  · rfl
  · rfl
  · rfl
  · rfl
  · cases modInv (subMod p2.x p1.x p) p <;> rfl

theorem modInv_isSome_iff (hm : 1 < m) : (modInv a m).isSome = true ↔ Nat.gcd a m = 1 := by
  rw [Option.isSome_iff_ne_none, ne_eq, modInv_eq_none_iff (by omega), not_not]

/-- The inverse is the inverse where there is one and its conversion never fails; no subtraction
of an addition or a doubling underflows, whatever the coordinates. -/
theorem checked_total :
    (∀ a m : ℕ, 1 < m → checkedModInv a m = some (modInv a m) ∧
      ((modInv a m).isSome = true ↔ Nat.gcd a m = 1) ∧
      ∀ x, modInv a m = some x → x < m ∧ a * x % m = 1) ∧
    ∀ p : ℕ, 0 < p → ∀ (a : ℕ) (p1 p2 : EcPoint),
      checkedAdd p1 p2 a p = some (ecAdd p1 p2 a p) ∧
      checkedDouble p1 a p = some (ecDouble p1 a p) := by
  refine ⟨fun a m hm => ⟨checkedModInv_eq a (by omega), modInv_isSome_iff hm, fun x h => ?_⟩,
    fun p hp a p1 p2 => ⟨checkedAdd_eq p1 p2 a hp, checkedDouble_eq p1 a hp⟩⟩
  obtain ⟨hlt, hmod⟩ := modInv_spec hm h
  exact ⟨hlt, (show a * x % m = 1 % m from hmod).trans (Nat.mod_eq_of_lt hm)⟩

end FreemkvUnlock.Aacs
