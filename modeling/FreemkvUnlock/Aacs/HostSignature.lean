import FreemkvUnlock.Aacs.DomainParameters
import FreemkvUnlock.Aacs.Ledger

/-! # The up-front credential gate

A host private key that matches its certificate signs verifiably whatever nonce is drawn, so
the authentication's own check of its signature cannot fail once the gate has passed.
-/

namespace FreemkvUnlock.Aacs

open Interaction Bytes

variable {c : Crypto} {fuel : ℕ} {la : Anchors} {τ : List (Event Scsi)}

theorem keypairMatches_iff {k : Vector UInt8 20} {cert : List UInt8} :
    aacs1KeypairMatches k cert = true ↔
      52 ≤ cert.length ∧ fromBytesBe k.toList % aacs1.n ≠ 0 ∧
        aacs1.mul (fromBytesBe k.toList) aacs1.g = EcPoint.new
          (fromBytesBe (certPubKey cert).1.toList) (fromBytesBe (certPubKey cert).2.toList) := by
  unfold aacs1KeypairMatches
  by_cases hlen : cert.length < 52
  · simp [hlen]
  by_cases hd : fromBytesBe k.toList % ecN = 0
  · simp [hd, aacs1]
  obtain ⟨x, y, hxy, -⟩ := aacs1_valid.mul_generator (k := fromBytesBe k.toList) hd
  have hmod : aacs1.mul (fromBytesBe k.toList % ecN) aacs1.g = EcPoint.new x y :=
    (aacs1_valid.mul_mod _).trans hxy
  simp only [hlen, hd, hmod, hxy]
  simp [EcPoint.new, aacs1, hd, Nat.not_lt.mp hlen]

theorem ecdsaVerify_of_keypairMatches {k : Vector UInt8 20} {cert data : List UInt8}
    {sig : Vector UInt8 20 × Vector UInt8 20} (hk : aacs1KeypairMatches k cert = true)
    (h : Run (ecdsaSign c fuel k data) τ sig) :
    ecdsaVerify c (certPubKey cert).1 (certPubKey cert).2 sig.1 sig.2 data = true := by
  obtain ⟨-, hd, hq⟩ := keypairMatches_iff.mp hk
  obtain ⟨kBytes, hs⟩ := EcDomain.run_sign h
  exact aacs1_valid.verify_signWith hd hq hs

theorem ecdsaVerifyP256_of_mul {k : Vector UInt8 32} {pubX pubY data : List UInt8}
    {sig : Vector UInt8 32 × Vector UInt8 32} (hd : fromBytesBe k.toList % p256.n ≠ 0)
    (hq : p256.mul (fromBytesBe k.toList) p256.g =
      EcPoint.new (fromBytesBe pubX) (fromBytesBe pubY))
    (h : Run (ecdsaSignP256 c fuel k data) τ sig) :
    ecdsaVerifyP256 c pubX pubY sig.1.toList sig.2.toList data = true := by
  obtain ⟨kBytes, hs⟩ := EcDomain.run_sign h
  exact p256_valid.verify_signWith hd hq hs

/-! ## The authentication's own check -/

theorem handshakeErr_ne {e fallback err : Error} (hf : fallback ≠ err)
    (ht : err.isScsiTransportFailure = false) : handshakeErr e fallback ≠ err := by
  unfold handshakeErr
  split_ifs with h
  · rintro rfl
    exact Bool.false_ne_true (ht.symm.trans h)
  · exact hf

theorem failsWith_step {fallback err : Error} {α : Type} {x : Session α} (hf : fallback ≠ err)
    (ht : err.isScsiTransportFailure = false) : FailsWith (· ≠ err) (step fallback x) :=
  .mapErr (.of_forall fun _ => handshakeErr_ne hf ht)

theorem failsWith_v1Step {fallback err : Error} {α : Type} {x : Session α} (hf : fallback ≠ err)
    (ht : err.isScsiTransportFailure = false) :
    FailsWith (· ≠ V1Fail.other err) ((step fallback x).mapErr V1Fail.other) :=
  .mapErr fun _ _ h he => failsWith_step hf ht h (V1Fail.other.inj he)

/-- With matching credentials no authentication rejects the host's own signature. -/
theorem failsWith_aacsAuthenticateWithAgid {agid : UInt8} {k : Vector UInt8 20}
    {cert : List UInt8} (hk : aacs1KeypairMatches k cert = true) :
    FailsWith (· ≠ .other .aacsHostSignVerify)
      (aacsAuthenticateWithAgid c fuel agid k cert la) := by
  refine .seq (.lift _) fun nonce => ?_
  refine .seq (.lift _) fun ⟨key, x, y⟩ => ?_
  refine .seq (failsWith_v1Step (by decide) rfl) fun _ => ?_
  refine .seq (failsWith_v1Step (by decide) rfl) fun certReply => ?_
  refine .seq (.result fun e he => ?_) fun _ => ?_
  · unfold checkDriveCert at he
    split_ifs at he <;> · cases he; nofun
  refine .seq (failsWith_v1Step (by decide) rfl) fun keyReply => ?_
  refine .seq (.ensure fun _ => nofun) fun _ => ?_
  refine .seq_of_run (.lift _) fun τ ⟨r, s⟩ hsign => ?_
  have hver := ecdsaVerify_of_keypairMatches hk (run_lift_ok_iff.mp hsign)
  refine .seq (.ensure fun h => absurd hver h) fun _ => ?_
  refine .seq (failsWith_v1Step (by decide) rfl) fun _ => ?_
  refine .seq (.result fun e he => ?_) fun _ => .ret _
  unfold Fallible.okOr at he
  revert he
  cases computeBusKey key (copyFromSlice 20 ((keyReply.extract 4 44).take 20))
    (copyFromSlice 20 ((keyReply.extract 4 44).extract 20 40)) <;> rintro ⟨⟩
  nofun

theorem failsWith_withAllocatedAgid {ε : Type} {Q : ε → Prop} {f : Error → ε}
    {authenticate : UInt8 → Fallible Scsi ε AacsAuth}
    (hf : FailsWith (fun e => Q (f e)) allocateAgid)
    (ha : ∀ agid, FailsWith Q (authenticate agid)) :
    FailsWith Q (withAllocatedAgid f authenticate) := by
  refine .seq (.lift _) fun _ => .seq (.mapErr hf) fun agid => ?_
  intro τ e h
  obtain ⟨τ₁, o, τ₂, rfl, h₁, k₁⟩ := run_bind_iff.mp h
  rcases o with err | auth
  · obtain ⟨_, _, _, rfl, -, k₂⟩ := run_bind_iff.mp k₁
    exact Except.error.inj (run_pure_iff.mp k₂).2 ▸ ha agid h₁
  · cases (run_pure_iff.mp k₁).2

theorem failsWith_aacs1Ake {k : Vector UInt8 20} {cert : List UInt8}
    (hk : aacs1KeypairMatches k cert = true) :
    FailsWith (· ≠ .other .aacsHostSignVerify) (aacs1Ake c fuel k cert la) := by
  refine .seq (.ensure fun _ => nofun) fun _ => failsWith_withAllocatedAgid ?_ fun agid =>
    failsWith_aacsAuthenticateWithAgid hk
  exact .seq (fun _ _ h he => failsWith_step (by decide) rfl h (V1Fail.other.inj he))
    fun _ => .ret _

/-- Whatever a matching key signs verifies, on both curves, and the authentication's check of
its own signature is unreachable behind the credential gate. -/
theorem hostSignature_verifies (c : Crypto) (fuel : ℕ) :
    (∀ k cert data τ sig, aacs1KeypairMatches k cert = true →
      Run (ecdsaSign c fuel k data) τ sig →
      ecdsaVerify c (certPubKey cert).1 (certPubKey cert).2 sig.1 sig.2 data = true) ∧
    (∀ hc la τ, v1CredsUsable hc = true →
      ¬ Run (aacs1Ake c fuel hc.privateKey hc.certificate la).run τ
        (.error (.other .aacsHostSignVerify))) ∧
    ∀ (k : Vector UInt8 32) pubX pubY data τ sig, fromBytesBe k.toList % p256.n ≠ 0 →
      p256.mul (fromBytesBe k.toList) p256.g =
        EcPoint.new (fromBytesBe pubX) (fromBytesBe pubY) →
      Run (ecdsaSignP256 c fuel k data) τ sig →
      ecdsaVerifyP256 c pubX pubY sig.1.toList sig.2.toList data = true := by
  refine ⟨fun k cert data τ sig => ecdsaVerify_of_keypairMatches, fun hc la τ hu h => ?_,
    fun k pubX pubY data τ sig => ecdsaVerifyP256_of_mul⟩
  simp only [v1CredsUsable, Bool.and_eq_true] at hu
  exact failsWith_aacs1Ake hu.2 h rfl

/-- A private key above the group order, with the certificate of its reduced key. -/
def wrappedCert : HostCert := { unitCert with privateKey := aacs1.encode (ecN + 1) }

theorem hostSignature_verifies_wrapped :
    (∃ τ sig, Run (ecdsaSign .unused 1 wrappedCert.privateKey [1, 2, 3]) τ sig ∧
      ecdsaVerify .unused (certPubKey wrappedCert.certificate).1
        (certPubKey wrappedCert.certificate).2 sig.1 sig.2 [1, 2, 3] = true) ∧
    (∀ τ, ¬ Run (aacs1Ake .unused 1 wrappedCert.privateKey wrappedCert.certificate .zero).run τ
      (.error (.other .aacsHostSignVerify))) ∧
    ∃ τ sig, Run (ecdsaSignP256 .unused 1 (p256.encode 1) [1, 2, 3]) τ sig ∧
      ecdsaVerifyP256 .unused (p256.encode p256Gx).toList (p256.encode p256Gy).toList
        sig.1.toList sig.2.toList [1, 2, 3] = true := by
  obtain ⟨h₁, h₂, h₃⟩ := hostSignature_verifies .unused 1
  have hv1 : (exec refusingDrive (ecdsaSign .unused 1 wrappedCert.privateKey [1, 2, 3]) ()).isSome =
      true := by decide +kernel
  have hp256 : (exec refusingDrive (ecdsaSignP256 .unused 1 (p256.encode 1) [1, 2, 3]) ()).isSome =
      true := by decide +kernel
  obtain ⟨⟨sig, τ, _⟩, he⟩ := Option.isSome_iff_exists.mp hv1
  obtain ⟨⟨sig', τ', _⟩, he'⟩ := Option.isSome_iff_exists.mp hp256
  exact ⟨⟨τ, sig, run_of_exec he, h₁ _ _ _ τ sig (by decide +kernel) (run_of_exec he)⟩,
    fun τ => h₂ wrappedCert .zero τ (by decide +kernel),
    τ', sig', run_of_exec he', h₃ _ _ _ _ τ' sig' (by decide +kernel) (by decide +kernel)
      (run_of_exec he')⟩

end FreemkvUnlock.Aacs
