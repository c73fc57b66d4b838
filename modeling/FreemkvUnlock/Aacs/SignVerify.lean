import FreemkvUnlock.Aacs.Ecdsa
import FreemkvUnlock.Aacs.GroupLaw
import FreemkvUnlock.Ecdsa.Group

/-! # Signatures verify and shared secrets agree

On a curve with a generator of prime order, what the signing loop accepts the verifier accepts
under the signer's public key, and the two ends of a key agreement meet in one point.
-/

namespace FreemkvUnlock.Aacs

open Interaction Bytes

namespace EcDomain

structure Valid (E : EcDomain) : Prop where
  curve : CurveParams E.a E.b E.p
  generator : OnCurve E.a E.b E.p E.g
  finite : E.g ≠ EcPoint.atInfinity
  order_prime : E.n.Prime
  order : E.mul E.n E.g = EcPoint.atInfinity
  width_pos : 0 < E.width
  p_lt : E.p < 256 ^ E.width
  n_lt : E.n < 256 ^ E.width

/-- An ECDSA signature `(r, s)` on the number `z` under the private key `d`, with nonce `k`. -/
structure Signs (E : EcDomain) (d z k r s : ℕ) : Prop where
  nonce_ne : k ≠ 0
  nonce_lt : k < E.n
  r_eq : r = (E.mul k E.g).x % E.n
  r_ne : r ≠ 0
  s_ne : s ≠ 0
  s_lt : s < E.n
  equation : k * s ≡ z + r * d [MOD E.n]

variable {E : EcDomain}

theorem fromBytesBe_encode (hw : 0 < E.width) {x : ℕ} (hx : x < 256 ^ E.width) :
    fromBytesBe (E.encode x).toList = x := by
  rw [encode, toList_copyFromSlice (length_toBytesBePadded _ _), fromBytesBe_toBytesBePadded hw hx]

theorem signWith_eq_some {hash : List UInt8 → List UInt8} {privKey data kBytes : List UInt8}
    {sig : Vector UInt8 E.width × Vector UInt8 E.width}
    (h : E.signWith hash privKey data kBytes = some sig) :
    ∃ k kInv r s, (k ≠ 0 ∧ k < E.n) ∧ modInv k E.n = some kInv ∧
      r = (E.mul k E.g).x % E.n ∧ r ≠ 0 ∧
      s = kInv * ((fromBytesBe (hash data) + r * fromBytesBe privKey) % E.n) % E.n ∧ s ≠ 0 ∧
      sig = (E.encode r, E.encode s) := by
  unfold signWith at h
  simp only at h
  split_ifs at h with hk hr
  push Not at hk
  rcases hi : modInv (fromBytesBe kBytes) E.n with _ | kInv
  · rw [hi] at h; cases h
  · rw [hi] at h
    simp only at h
    split_ifs at h with hs
    exact ⟨_, kInv, _, _, hk, hi, rfl, hr, rfl, hs, (Option.some.inj h).symm⟩

/-- A completed loop over random draws returns what one accepted draw gives. -/
theorem run_drawLoop {n fuel : ℕ} {α : Type} {f : Vector UInt8 n → Option α}
    {τ : List (Event Scsi)} {a : α}
    (h : Run (Prog.retry (do let bytes ← Scsi.fillBytes n; pure (f bytes)) fuel) τ a) :
    ∃ bytes, f bytes = some a := by
  obtain ⟨-, τ', -, -, h⟩ := run_retry h
  obtain ⟨_, bytes, _, -, -, h⟩ := run_bind_iff.mp h
  exact ⟨bytes, (run_pure_iff.mp h).2.symm⟩

theorem run_sign {fuel : ℕ} {hash : List UInt8 → List UInt8} {privKey data : List UInt8}
    {τ : List (Event Scsi)} {sig : Vector UInt8 E.width × Vector UInt8 E.width}
    (h : Run (E.sign hash fuel privKey data) τ sig) :
    ∃ kBytes, E.signWith hash privKey data kBytes = some sig := by
  obtain ⟨bytes, h⟩ := run_drawLoop h
  exact ⟨_, h⟩

theorem run_generateKeyPair {fuel : ℕ} {τ : List (Event Scsi)} {key x y : Vector UInt8 E.width}
    (h : Run (E.generateKeyPair fuel) τ (key, x, y)) :
    ∃ d, (d ≠ 0 ∧ d < E.n) ∧ key = E.encode d ∧ x = E.encode (E.mul d E.g).x ∧
      y = E.encode (E.mul d E.g).y := by
  obtain ⟨bytes, h⟩ := run_drawLoop h
  unfold keyPairWith at h
  dsimp only at h
  split_ifs at h with hd
  push Not at hd
  obtain ⟨rfl, rfl, rfl⟩ : _ = key ∧ _ = x ∧ _ = y := by simpa using h
  exact ⟨_, hd, rfl, rfl, rfl⟩

namespace Valid

theorem order_pos (h : E.Valid) : 0 < E.n := h.order_prime.pos

theorem mul_onCurve (h : E.Valid) {P : EcPoint} (hP : OnCurve E.a E.b E.p P) (k : ℕ) :
    OnCurve E.a E.b E.p (E.mul k P) := hP.mul h.curve k

theorem exists_generator (h : E.Valid) [Fact E.p.Prime] :
    ∃ g, Represents E.a E.b E.p E.g g ∧ E.n • g = 0 ∧ g ≠ 0 := by
  obtain ⟨g, hg⟩ := h.generator.represents h.curve
  have hn := hg.mul h.curve E.n
  refine ⟨g, hg, ?_, ?_⟩
  · rw [← mul, h.order] at hn
    exact hn.unique .infinity
  · rintro rfl
    exact h.finite (hg.injective .infinity)

/-- Multiples of the generator depend on the scalar modulo the order. -/
theorem mul_mod (h : E.Valid) (k : ℕ) : E.mul (k % E.n) E.g = E.mul k E.g := by
  have : Fact E.p.Prime := ⟨h.curve.prime⟩
  obtain ⟨g, hg, hn, -⟩ := h.exists_generator
  have hk := hg.mul h.curve (k % E.n)
  rw [Ecdsa.nsmul_congr hn (Nat.mod_modEq k E.n)] at hk
  exact hk.injective (hg.mul h.curve k)

theorem mul_generator (h : E.Valid) {k : ℕ} (hk : k % E.n ≠ 0) :
    ∃ x y, E.mul k E.g = EcPoint.new x y ∧ E.onCurve x y = true ∧ x < E.p ∧ y < E.p := by
  have : Fact E.p.Prime := ⟨h.curve.prime⟩
  obtain ⟨g, hg, hn, h0⟩ := h.exists_generator
  rcases h.mul_onCurve h.generator k with hi | ⟨hi, hon⟩
  · have hz := hg.mul h.curve k
    rw [← mul, hi] at hz
    exact absurd (hz.unique .infinity) (Ecdsa.nsmul_ne_zero h.order_prime hn h0 hk)
  · obtain ⟨hx, hy, -⟩ := pointOnCurve_iff.mp hon
    refine ⟨_, _, ?_, hon, hx, hy⟩
    rw [EcPoint.new, ← hi]

theorem modInv_isSome (h : E.Valid) {s : ℕ} (h0 : s ≠ 0) (hs : s < E.n) :
    ∃ sInv, modInv s E.n = some sInv ∧ s * sInv ≡ 1 [MOD E.n] := by
  have hne : modInv s E.n ≠ none := by
    rw [ne_eq, modInv_eq_none_iff h.order_pos, not_not]
    exact (h.order_prime.coprime_iff_not_dvd.mpr
      (Nat.not_dvd_of_pos_of_lt (Nat.pos_of_ne_zero h0) hs)).symm
  obtain ⟨sInv, hi⟩ := Option.ne_none_iff_exists'.mp hne
  exact ⟨sInv, hi, (modInv_spec h.order_prime.one_lt hi).2⟩

/-- The verifier's combination of generator and public key is the signer's nonce point. -/
theorem verify_point (h : E.Valid) {k kInv s sInv z r d : ℕ} (hk : k * kInv ≡ 1 [MOD E.n])
    (hs : s ≡ kInv * (z + r * d) [MOD E.n]) (hsi : s * sInv ≡ 1 [MOD E.n]) :
    ecAdd (E.mul (z * sInv % E.n) E.g) (E.mul (r * sInv % E.n) (E.mul d E.g)) E.a E.p =
      E.mul k E.g := by
  have : Fact E.p.Prime := ⟨h.curve.prime⟩
  obtain ⟨g, hg, hn, -⟩ := h.exists_generator
  have hrep := (hg.mul h.curve (z * sInv % E.n)).add h.curve
    ((hg.mul h.curve d).mul h.curve (r * sInv % E.n))
  rw [Ecdsa.verify_point hn hk hs hsi] at hrep
  exact hrep.injective (hg.mul h.curve k)

theorem verify_of_signs (h : E.Valid) {hash : List UInt8 → List UInt8} {data pubX pubY : List UInt8}
    {d k r s : ℕ} (hd : d % E.n ≠ 0)
    (hq : E.mul d E.g = EcPoint.new (fromBytesBe pubX) (fromBytesBe pubY))
    (hs : E.Signs d (fromBytesBe (hash data)) k r s) :
    E.verify hash pubX pubY (E.encode r).toList (E.encode s).toList data = true := by
  have hrlt : r < E.n := hs.r_eq ▸ Nat.mod_lt _ h.order_pos
  obtain ⟨kInv, -, hkMul⟩ := h.modInv_isSome hs.nonce_ne hs.nonce_lt
  obtain ⟨sInv, hsInv, hsMul⟩ := h.modInv_isSome hs.s_ne hs.s_lt
  have hsmod : s ≡ kInv * (fromBytesBe (hash data) + r * d) [MOD E.n] := by
    have hk : kInv * (k * s) ≡ 1 * s [MOD E.n] := by
      rw [← Nat.mul_assoc, Nat.mul_comm kInv k]
      exact hkMul.mul_right s
    rw [Nat.one_mul] at hk
    exact hk.symm.trans (hs.equation.mul_left kInv)
  have hsum := h.verify_point hkMul hsmod hsMul
  obtain ⟨x, y, hxy, -⟩ := h.mul_generator (k := k)
    (by rw [Nat.mod_eq_of_lt hs.nonce_lt]; exact hs.nonce_ne)
  obtain ⟨qx, qy, hq', hon, -⟩ := h.mul_generator hd
  obtain ⟨rfl, rfl⟩ : fromBytesBe pubX = qx ∧ fromBytesBe pubY = qy := by
    rw [hq] at hq'; simpa [EcPoint.new] using hq'
  have hx : x % E.n = r := by rw [hs.r_eq, hxy]; rfl
  rw [hxy, hq] at hsum
  have hR : fromBytesBe (E.encode r).toList = r :=
    fromBytesBe_encode h.width_pos (hrlt.trans h.n_lt)
  have hS : fromBytesBe (E.encode s).toList = s :=
    fromBytesBe_encode h.width_pos (hs.s_lt.trans h.n_lt)
  unfold verify
  simp only [hR, hS, hsInv, hsum]
  simp [EcPoint.new, hon, hs.r_ne, hs.s_ne, hrlt, hs.s_lt, hx]

theorem signs_of_signWith (h : E.Valid) {hash : List UInt8 → List UInt8}
    {privKey data kBytes : List UInt8} {sig : Vector UInt8 E.width × Vector UInt8 E.width}
    (hs : E.signWith hash privKey data kBytes = some sig) :
    ∃ k r s, E.Signs (fromBytesBe privKey) (fromBytesBe (hash data)) k r s ∧
      sig = (E.encode r, E.encode s) := by
  obtain ⟨k, kInv, r, s, hk, hi, hr, hr0, hse, hs0, rfl⟩ := signWith_eq_some hs
  refine ⟨k, r, s, ⟨hk.1, hk.2, hr, hr0, hs0, hse ▸ Nat.mod_lt _ h.order_pos, ?_⟩, rfl⟩
  have hkMul := (modInv_spec h.order_prime.one_lt hi).2
  calc k * s ≡ k * (kInv * (fromBytesBe (hash data) + r * fromBytesBe privKey)) [MOD E.n] := by
        rw [hse]
        exact ((Nat.mod_modEq _ _).trans ((Nat.mod_modEq _ _).mul_left _)).mul_left k
    _ = k * kInv * (fromBytesBe (hash data) + r * fromBytesBe privKey) := (Nat.mul_assoc ..).symm
    _ ≡ 1 * (fromBytesBe (hash data) + r * fromBytesBe privKey) [MOD E.n] := hkMul.mul_right _
    _ = _ := Nat.one_mul _

/-- Whatever the signing loop accepts verifies under the public key of its private key. -/
theorem verify_signWith (h : E.Valid) {hash : List UInt8 → List UInt8}
    {privKey data kBytes pubX pubY : List UInt8} {sig : Vector UInt8 E.width × Vector UInt8 E.width}
    (hd : fromBytesBe privKey % E.n ≠ 0)
    (hq : E.mul (fromBytesBe privKey) E.g = EcPoint.new (fromBytesBe pubX) (fromBytesBe pubY))
    (hs : E.signWith hash privKey data kBytes = some sig) :
    E.verify hash pubX pubY sig.1.toList sig.2.toList data = true := by
  obtain ⟨k, r, s, hsig, rfl⟩ := h.signs_of_signWith hs
  exact h.verify_of_signs hd hq hsig

/-- The two ends of a key agreement compute one shared point. -/
theorem mul_comm (h : E.Valid) (j k : ℕ) :
    E.mul j (E.mul k E.g) = E.mul k (E.mul j E.g) := by
  unfold mul
  rw [ecMul_mul h.curve h.generator, ecMul_mul h.curve h.generator, Nat.mul_comm]

end Valid

end EcDomain

end FreemkvUnlock.Aacs
