import FreemkvUnlock.Aacs.HonestDrive
import FreemkvUnlock.Interaction.Termination

/-! # Completeness of the handshake

Against an honest drive the handshake ends, succeeds, and both sides hold the same bus key,
whatever the host draws; a fair source of randomness is all its loops need to end.
-/

namespace FreemkvUnlock.Aacs

open Interaction Bytes

namespace EcDomain.Valid

variable {E : EcDomain}

/-- A nonce is accepted unless it makes one half of the signature zero. -/
theorem signWith_isSome (h : E.Valid) (hash : List UInt8 → List UInt8)
    (privKey data : List UInt8) {kBytes : List UInt8} {k : ℕ} (hb : fromBytesBe kBytes = k)
    (hk : k ≠ 0 ∧ k < E.n) (hr : (E.mul k E.g).x % E.n ≠ 0)
    (hz : ¬ fromBytesBe (hash data) + (E.mul k E.g).x % E.n * fromBytesBe privKey ≡ 0 [MOD E.n]) :
    (E.signWith hash privKey data kBytes).isSome = true := by
  obtain ⟨kInv, hi, hmul⟩ := h.modInv_isSome hk.1 hk.2
  have hs : kInv * ((fromBytesBe (hash data) + (E.mul k E.g).x % E.n * fromBytesBe privKey) % E.n)
      % E.n ≠ 0 := fun h0 => by
    rcases h.order_prime.dvd_mul.mp (Nat.dvd_of_mod_eq_zero h0) with hd | hd
    · have h1 : 1 ≡ 0 [MOD E.n] := hmul.symm.trans
        (Nat.modEq_zero_iff_dvd.mpr (hd.mul_left k))
      exact h.order_prime.one_lt.ne' (Nat.dvd_one.mp (Nat.modEq_zero_iff_dvd.mp h1))
    · exact hz ((Nat.mod_modEq _ _).symm.trans (Nat.modEq_zero_iff_dvd.mpr hd))
  unfold signWith
  simp only [hb, hk.1, not_le.mpr hk.2, or_self, if_false, hr, hi, hs]
  rfl

/-- Two nonces whose points differ in x cannot both be rejected. -/
theorem exists_signWith (h : E.Valid) (hash : List UInt8 → List UInt8) {privKey : List UInt8}
    (data : List UInt8) (hd : fromBytesBe privKey % E.n ≠ 0) {j k : ℕ}
    (hj : j ≠ 0 ∧ j < E.n) (hk : k ≠ 0 ∧ k < E.n)
    (hrj : (E.mul j E.g).x % E.n ≠ 0) (hrk : (E.mul k E.g).x % E.n ≠ 0)
    (hne : (E.mul j E.g).x % E.n ≠ (E.mul k E.g).x % E.n) :
    ∃ kBytes : Vector UInt8 E.width,
      (E.signWith hash privKey data kBytes.toList).isSome = true := by
  have henc : ∀ {i}, i ≠ 0 ∧ i < E.n → fromBytesBe (E.encode i).toList = i :=
    fun hi => fromBytesBe_encode h.width_pos (hi.2.trans h.n_lt)
  by_contra hnone
  push Not at hnone
  have hzero : ∀ {i}, i ≠ 0 ∧ i < E.n → (E.mul i E.g).x % E.n ≠ 0 →
      fromBytesBe (hash data) + (E.mul i E.g).x % E.n * fromBytesBe privKey ≡ 0 [MOD E.n] := by
    intro i hi hr
    by_contra hz
    exact hnone (E.encode i) (h.signWith_isSome hash privKey data (henc hi) hi hr hz)
  have heq := Nat.ModEq.add_left_cancel' _ ((hzero hj hrj).trans (hzero hk hrk).symm)
  have hcop : Nat.gcd E.n (fromBytesBe privKey) = 1 :=
    (Nat.Prime.coprime_iff_not_dvd h.order_prime).mpr fun hdvd =>
      hd (Nat.mod_eq_zero_of_dvd hdvd)
  have := Nat.ModEq.cancel_right_of_coprime hcop heq
  unfold Nat.ModEq at this
  rw [Nat.mod_mod, Nat.mod_mod] at this
  exact hne this

end EcDomain.Valid

/-! ## Loops end -/

section Termination

variable {σ : Type} {h : Handler Scsi σ} {c : Crypto} {la : Anchors}

/-- Every byte string comes up, from every state, if one keeps drawing. -/
def FairRandom (h : Handler Scsi σ) : Prop :=
  ∀ n (r : Vector UInt8 n) s, Draws h (.fillBytes n) r s

theorem settles_generateHostKeyPair (hf : FairRandom h) : Settles h generateHostKeyPair :=
  Settles.drawLoop (I := Scsi) (o := .fillBytes aacs1.width)
    (f := fun bytes : Vector UInt8 20 => aacs1.keyPairWith bytes.toList)
    (r := aacs1.encode 1) (hf _ _) (by decide +kernel)

theorem settles_ecdsaSign (hf : FairRandom h) {k : Vector UInt8 20} {data : List UInt8}
    (hk : fromBytesBe k.toList % aacs1.n ≠ 0) : Settles h fun fuel => ecdsaSign c fuel k data := by
  obtain ⟨kBytes, hs⟩ := aacs1_valid.exists_signWith c.sha1 data hk
    (j := 1) (k := 2) (by decide) (by decide) (by decide +kernel) (by decide +kernel)
    (by decide +kernel)
  exact Settles.drawLoop (I := Scsi) (o := .fillBytes aacs1.width)
    (f := fun bytes : Vector UInt8 20 => aacs1.signWith c.sha1 k.toList data bytes.toList)
    (hf _ kBytes) hs

variable {agid : UInt8} {k : Vector UInt8 20} {cert : List UInt8}

theorem settles_scsiRead {cdb : List UInt8} {len : ℕ} :
    Settles h fun _ => (scsiRead cdb len).run := .seq (.lift (.ask _)) fun _ => .result _

theorem settles_scsiWrite {cdb data : List UInt8} :
    Settles h fun _ => (scsiWrite cdb data).run := .seq (.lift (.ask _)) fun _ => .result _

theorem settles_aacsAuthenticateWithAgid (hf : FairRandom h)
    (hk : fromBytesBe k.toList % aacs1.n ≠ 0) :
    Settles h fun fuel => (aacsAuthenticateWithAgid c fuel agid k cert la).run := by
  refine .seq (.lift (.ask _)) fun nonce => ?_
  refine .seq (.lift (settles_generateHostKeyPair hf)) fun ⟨key, x, y⟩ => ?_
  refine .seq (.mapErr (.mapErr settles_scsiWrite)) fun _ => ?_
  refine .seq (.mapErr (.mapErr settles_scsiRead)) fun certReply => ?_
  refine .seq (.result _) fun _ => ?_
  refine .seq (.mapErr (.mapErr settles_scsiRead)) fun keyReply => ?_
  refine .seq (.ensure _ _) fun _ => ?_
  refine .seq (.lift (settles_ecdsaSign hf hk)) fun ⟨r, s⟩ => ?_
  refine .seq (.ensure _ _) fun _ => ?_
  refine .seq (.mapErr (.mapErr settles_scsiWrite)) fun _ => ?_
  exact .seq (.result _) fun _ => .ret _

theorem settles_invalidateAgids (agids : List UInt8) :
    Settles h fun _ => invalidateAgids agids := by
  induction agids with
  | nil => exact .pure ()
  | cons agid agids ih => exact .bind settles_scsiRead fun _ => ih

theorem settles_drop (guard : AgidGuard) : Settles h fun _ => guard.drop :=
  .bind (.ask _) fun _ => .pure _

theorem settles_aacs1Ake (hf : FairRandom h) (hk : fromBytesBe k.toList % aacs1.n ≠ 0) :
    Settles h fun fuel => (aacs1Ake c fuel k cert la).run := by
  refine .seq (.ensure _ _) fun _ => ?_
  refine .seq (.lift (settles_invalidateAgids _)) fun _ => ?_
  refine .seq (.mapErr (.seq (.mapErr settles_scsiRead) fun _ => .ret _)) fun agid => ?_
  refine .bind (settles_aacsAuthenticateWithAgid hf hk) fun r => ?_
  rcases r with e | auth
  · exact .bind (settles_drop _) fun _ => .pure _
  · exact .pure _

theorem settles_readDataKeys (auth : AacsAuth) : Settles h fun _ => (readDataKeys c auth).run :=
  .seq (.mapErr settles_scsiRead) fun _ => .seq (.ensure _ _) fun _ => .ret _

theorem settles_finishAuth (guard : AgidGuard) (auth : AacsAuth) :
    Settles h fun _ => (finishAuth c guard auth).run := by
  refine .bind ?_ fun r => .bind (settles_drop _) fun _ => .pure _
  refine .seq (.mapErr (.seq (.mapErr settles_scsiRead) fun _ =>
    .seq (.ensure _ _) fun _ => .ret _)) fun ⟨vid, auth'⟩ => ?_
  dsimp only
  split_ifs
  · refine .seq (.lift (settles_readDataKeys auth')) fun r => ?_
    rcases r with e | ⟨⟨rdk, wdk⟩, auth''⟩
    · dsimp only
      split_ifs
      · exact .pure _
      · exact .ret _
    · exact .ret _
  · exact .ret _

theorem settles_attemptV1 (hf : FairRandom h) {hc : HostCert} {hasV2 : Bool}
    (hk : fromBytesBe hc.privateKey.toList % aacs1.n ≠ 0) :
    Settles h fun fuel => attemptV1 c fuel hc la hasV2 := by
  refine .bind (settles_aacs1Ake hf hk) fun r => ?_
  rcases r with f | ⟨auth, guard⟩
  · exact .pure _
  · exact .map (settles_finishAuth _ _)

end Termination

/-! ## The honest session -/

namespace HonestDrive

variable {c : Crypto} {la : Anchors} (d : HonestDrive c la) {fuel : ℕ} {hc : HostCert}
  {u v : Heard} {τ : List (Event Scsi)}

/-- Both sides completed one session: equal bus keys, a host signature the drive can check, and
the drive's Volume ID and data key reported. -/
structure Completes (fuel : ℕ) (hc : HostCert) (ch : CertHandshake) (τ : List (Event Scsi))
    (v : Heard) : Prop where
  busKey : ∃ pre body post auth, τ = pre ++ body ++ post ∧
    Run (aacsAuthenticateWithAgid c fuel d.agid hc.privateKey hc.certificate la).run body
      (.ok auth) ∧ auth.busKey = d.busKey v
  signed : ecdsaVerify c (certPubKey hc.certificate).1 (certPubKey hc.certificate).2
    (copyFromSlice 20 (v.keyMsg.extract 44 64)) (copyFromSlice 20 (v.keyMsg.extract 64 84))
    (d.nonce.toList ++ v.keyMsg.extract 4 44) = true
  volumeId : ch.volumeId = d.vid
  readDataKey : ch.readDataKey = d.readDataKey v

theorem succeeds_finishAuth {hostCert : List UInt8} {auth : AacsAuth} {guard : AgidGuard} :
    d.contract.Succeeds (d.Agreed hostCert auth) (finishAuth c guard auth) fun ch v =>
      d.Agreed hostCert auth v ∧ ch.volumeId = d.vid ∧ ch.readDataKey = d.readDataKey v :=
  .bind d.succeeds_finishReads fun _ =>
    .bind (.bind (.ask fun _ _ _ hP ⟨_, hv⟩ => hv ▸ hP) fun _ => .pure fun _ => id) fun _ =>
      .pure fun _ => id

theorem run_attemptV1 {hasV2 : Bool} {o : V1Step} (hu : v1CredsUsable hc = true)
    (h : Run (attemptV1 c fuel hc la hasV2) τ o) (hf : d.contract.Follows u τ v) :
    ∃ ch, o = .done (.ok ch) ∧ d.Completes fuel hc ch τ v := by
  simp only [v1CredsUsable, Bool.and_eq_true, decide_eq_true_eq] at hu
  obtain ⟨τ₁, r, τ₂, rfl, h₁, k₁⟩ := run_bind_iff.mp h
  obtain ⟨w, f₁, f₂⟩ := Contract.follows_append_iff.mp hf
  obtain ⟨⟨auth, guard⟩, rfl, hagreed⟩ := d.succeeds_aacs1Ake hu.1 hu.2 trivial h₁ f₁
  obtain ⟨agid, pre, alloc, body, -, rfl, -, -, hbody, rfl⟩ := (run_aacs1Ake h₁).1 _ _ rfl
  obtain ⟨t, -, rfl⟩ := V1Transcript.of_run hbody
  obtain ⟨r, k₂, rfl⟩ := run_map_iff.mp k₁
  obtain ⟨ch, rfl, ha, hvid, hrdk⟩ := d.succeeds_finishAuth hagreed k₂ f₂
  have hagid : agid = d.agid := ha.agid
  subst hagid
  exact ⟨ch, rfl, ⟨pre ++ [alloc], body, τ₂, t.auth, by simp, hbody, ha.busKey⟩, ha.signed, hvid,
    hrdk⟩

def Usable (allowP256 : Bool) (hc : HostCert) : Bool :=
  v1CredsUsable hc || v2CredsUsable hc allowP256

theorem certLoop_skip {allowP256 : Bool} {skipped rest : List HostCert}
    (hs : ∀ hc ∈ skipped, (!Usable allowP256 hc) = true) :
    certLoop c fuel la allowP256 (skipped ++ rest) 0 false =
      certLoop c fuel la allowP256 rest 0 false := by
  induction skipped with
  | nil => rfl
  | cons hc skipped ih =>
    simp only [List.forall_mem_cons, Usable, Bool.not_eq_true', Bool.or_eq_false_iff] at hs ih
    rw [List.cons_append, certLoop]
    simp [hs.1.1, hs.1.2, ih hs.2, maxCertAttempts]

theorem certLoop_first {allowP256 : Bool} {rest : List HostCert} (hu : v1CredsUsable hc = true) :
    certLoop c fuel la allowP256 (hc :: rest) 0 false =
      attemptOneCert c fuel hc la true (v2CredsUsable hc allowP256) >>= fun o =>
        match o with
        | .ok ch => pure (.ok ch)
        | .transport => pure (.error .transport)
        | .vidUnavailable => pure (.error .vidUnavailable)
        | .reject _ dead => certLoop c fuel la allowP256 rest 1 dead := by
  rw [certLoop, if_neg (by decide)]
  dsimp only
  rw [if_neg (by simp), if_neg (by simp [hu]), hu]
  rfl

theorem run_attemptOneCert {hasV2 : Bool} {o : CertOutcome} (hu : v1CredsUsable hc = true)
    (h : Run (attemptOneCert c fuel hc la true hasV2) τ o) (hf : d.contract.Follows u τ v) :
    ∃ ch, o = .ok ch ∧ d.Completes fuel hc ch τ v := by
  obtain ⟨τ₁, r, τ₂, rfl, h₁, k₁⟩ := run_bind_iff.mp h
  obtain ⟨w, f₁, f₂⟩ := Contract.follows_append_iff.mp hf
  obtain ⟨ch, rfl, hcomp⟩ := d.run_attemptV1 hu h₁ f₁
  obtain ⟨rfl, rfl⟩ := run_pure_iff.mp k₁
  obtain rfl := Contract.follows_nil_iff.mp f₂
  exact ⟨ch, rfl, by simpa using hcomp⟩

variable {certs : List HostCert} {allowP256 : Bool}

theorem runCertHandshake_first (c : Crypto) (la : Anchors)
    (hfirst : certs.find? (Usable allowP256) = some hc)
    (hu : v1CredsUsable hc = true) :
    ∃ rest : ℕ → Bool → ℕ → Prog Scsi (Except UnlockError CertHandshake), ∀ fuel,
      runCertHandshakeWithAnchors c fuel certs la allowP256 =
        attemptOneCert c fuel hc la true (v2CredsUsable hc allowP256) >>= fun o =>
          match o with
          | .ok ch => pure (.ok ch)
          | .transport => pure (.error .transport)
          | .vidUnavailable => pure (.error .vidUnavailable)
          | .reject code dead => rest code dead fuel := by
  obtain ⟨-, skipped, rest, rfl, hs⟩ := List.find?_eq_some_iff_append.mp hfirst
  refine ⟨fun _ dead fuel => certLoop c fuel la allowP256 rest 1 dead, fun fuel => ?_⟩
  unfold runCertHandshakeWithAnchors
  rw [certLoop_skip hs, certLoop_first hu]

theorem run_runCertHandshake {r : Except UnlockError CertHandshake}
    (hfirst : certs.find? (Usable allowP256) = some hc) (hu : v1CredsUsable hc = true)
    (h : Run (runCertHandshakeWithAnchors c fuel certs la allowP256) τ r)
    (hf : d.contract.Follows u τ v) : ∃ ch, r = .ok ch ∧ d.Completes fuel hc ch τ v := by
  obtain ⟨rest, hrest⟩ := runCertHandshake_first c la hfirst hu
  rw [hrest] at h
  obtain ⟨τ₁, o, τ₂, rfl, h₁, k₁⟩ := run_bind_iff.mp h
  obtain ⟨w, f₁, f₂⟩ := Contract.follows_append_iff.mp hf
  obtain ⟨ch, rfl, hcomp⟩ := d.run_attemptOneCert hu h₁ f₁
  obtain ⟨rfl, rfl⟩ := run_pure_iff.mp k₁
  obtain rfl := Contract.follows_nil_iff.mp f₂
  exact ⟨ch, rfl, by simpa using hcomp⟩

/-- With fair randomness the handshake with an honest drive ends. -/
theorem exec_runCertHandshake {σ : Type} {h : Handler Scsi σ} {view : σ → Heard}
    (hfirst : certs.find? (Usable allowP256) = some hc) (hu : v1CredsUsable hc = true)
    (hk : d.contract.KeptBy h view) (hr : FairRandom h) (s : σ) :
    ∃ N ch τ s', ∀ fuel ≥ N,
      exec h (runCertHandshakeWithAnchors c fuel certs la allowP256) s = some (.ok ch, τ, s') := by
  obtain ⟨rest, hrest⟩ := runCertHandshake_first c la hfirst hu
  have hkey : fromBytesBe hc.privateKey.toList % aacs1.n ≠ 0 := by
    simp only [v1CredsUsable, Bool.and_eq_true] at hu
    exact (keypairMatches_iff.mp hu.2).2.1
  -- the 1.0 half settles, and no settled outcome leaves it
  have hattempt : SettlesFrom h
      (fun fuel => attemptOneCert c fuel hc la true (v2CredsUsable hc allowP256)) s := by
    refine (settles_attemptV1 hr hkey s).bind fun o τ s' hrun => ?_
    obtain ⟨N, hN⟩ := hrun
    obtain ⟨ch, rfl, -⟩ := d.run_attemptV1 hu (run_of_exec (hN N le_rfl))
      (hk.follows (hN N le_rfl))
    exact Settles.pure _ _
  have hsettle : SettlesFrom h
      (fun fuel => runCertHandshakeWithAnchors c fuel certs la allowP256) s := by
    simp only [hrest]
    refine hattempt.bind fun o τ s' hrun => ?_
    obtain ⟨N, hN⟩ := hrun
    obtain ⟨ch, rfl, -⟩ := d.run_attemptOneCert hu (run_of_exec (hN N le_rfl))
      (hk.follows (hN N le_rfl))
    exact Settles.pure _ _
  obtain ⟨⟨r, τ, s'⟩, N, hN⟩ := hsettle
  obtain ⟨ch, rfl, -⟩ := d.run_runCertHandshake hfirst hu (run_of_exec (hN N le_rfl))
    (hk.follows (hN N le_rfl))
  exact ⟨N, ch, τ, s', hN⟩

theorem draws_handler {sign : List UInt8 → Vector UInt8 20 × Vector UInt8 20} {n : ℕ}
    {r : Vector UInt8 n} (w : Heard) (t : ℕ) {i : ℕ}
    (h : copyFromSlice n (toBytesBePadded ((i + t) % 256 ^ n) n) = r) :
    Draws (d.handler sign) (.fillBytes n) r (w, i) := by
  induction t generalizing i with
  | zero => exact .now h
  | succ t ih => exact .later (ih (i := i + 1) (by rwa [Nat.add_right_comm, Nat.add_assoc]))

theorem fairRandom_handler {sign : List UInt8 → Vector UInt8 20 × Vector UInt8 20} :
    FairRandom (d.handler sign) := by
  rintro n r ⟨w, i⟩
  have hr : fromBytesBe r.toList < 256 ^ n := by simpa using fromBytesBe_lt r.toList
  refine d.draws_handler w (fromBytesBe r.toList + (256 ^ n - i % 256 ^ n)) ?_
  have hi := Nat.mod_lt i (show 0 < 256 ^ n by positivity)
  have hmod : (i + (fromBytesBe r.toList + (256 ^ n - i % 256 ^ n))) % 256 ^ n =
      fromBytesBe r.toList := by
    have hdiv := Nat.div_add_mod i (256 ^ n)
    have heq : i + (fromBytesBe r.toList + (256 ^ n - i % 256 ^ n)) =
        fromBytesBe r.toList + 256 ^ n * (i / 256 ^ n + 1) := by
      rw [Nat.mul_add, Nat.mul_one]; omega
    rw [heq, Nat.add_mul_mod_self_left, Nat.mod_eq_of_lt hr]
  rw [hmod]
  rcases n with _ | n
  · exact Vector.ext fun i hi => absurd hi (Nat.not_lt_zero i)
  · have hne : r.toList ≠ [] := fun h0 => by simpa using congrArg List.length h0
    have := toBytesBePadded_fromBytesBe hne
    rw [Vector.length_toList] at this
    rw [this, copyFromSlice_toList]

end HonestDrive

/-! ## One drive -/

namespace Sample

/-- The first 52 bytes of the drive's certificate, for the public key of the private key two. -/
def certBody : List UInt8 :=
  [0x01, 0x01, 0, 0, 0, 0, 0, 0, 0, 0, 0, 0] ++
    toBytesBePadded (aacs1.mul 2 aacs1.g).x 20 ++ toBytesBePadded (aacs1.mul 2 aacs1.g).y 20

def driveNonce : Vector UInt8 20 := Vector.replicate 20 0xAA

/-- SHA-1 of the messages of the session: the certificate, what the drive signs and what the
host signs when it draws one, two and three. -/
def digests : List (List UInt8 × ℕ) :=
  [(certBody, 0xff264070de7a00ea84218312670ab1e5c06d2f45),
    (toBytesBePadded 1 20 ++ toBytesBePadded (aacs1.mul 3 aacs1.g).x 20 ++
      toBytesBePadded (aacs1.mul 3 aacs1.g).y 20, 0x199b049d6aa51837ad74d3b6eac56a441a21f822),
    (driveNonce.toList ++ toBytesBePadded (aacs1.mul 2 aacs1.g).x 20 ++
      toBytesBePadded (aacs1.mul 2 aacs1.g).y 20, 0xea35d917e34234c7746ab0ea4f2227536085ebd1)]

def block (x : ℕ) : Vector UInt8 16 := copyFromSlice 16 (toBytesBePadded x 16)

def crypto : Crypto where
  sha1 m := toBytesBePadded ((digests.lookup m).getD 0) 20
  sha256 _ := []
  aesEncrypt _ b :=
    if b = block 0 then block 0x2cf0dcc9c5830f8ba542d904fe3c7421
    else block 0x48808426b4d45b82d0478402eae97780
  aesDecrypt _ _ := block 0x11111111111111111111111111111111

def sign (key : ℕ) (msg : List UInt8) : Vector UInt8 20 × Vector UInt8 20 :=
  (aacs1.signWith crypto.sha1 (aacs1.encode key).toList msg (aacs1.encode 7).toList).getD
    (Vector.replicate 20 0, Vector.replicate 20 0)

theorem sha1_cases (m : List UInt8) :
    fromBytesBe (crypto.sha1 m) ∈ [0, 0xff264070de7a00ea84218312670ab1e5c06d2f45,
      0x199b049d6aa51837ad74d3b6eac56a441a21f822, 0xea35d917e34234c7746ab0ea4f2227536085ebd1] := by
  have hlook : ∀ (m : List UInt8), (digests.lookup m).getD 0 ∈ 0 :: digests.map Prod.snd := by
    intro m
    generalize digests = l
    induction l with
    | nil => simp
    | cons a l ih =>
      rw [List.lookup_cons]
      split
      · simp
      · simp only [List.map_cons, List.mem_cons] at ih ⊢
        tauto
  have hlt : ∀ x ∈ 0 :: digests.map Prod.snd, x < 256 ^ 20 := by decide +kernel
  have h := hlook m
  unfold crypto
  rw [fromBytesBe_toBytesBePadded (by decide) (hlt _ h)]
  exact h

theorem sign_signs {key : ℕ} (hk : key = 2 ∨ key = 5) (msg : List UInt8) :
    ∃ k r s, aacs1.Signs key (fromBytesBe (crypto.sha1 msg)) k r s ∧
      sign key msg = (aacs1.encode r, aacs1.encode s) := by
  have hlt : key < 256 ^ aacs1.width := by rcases hk with rfl | rfl <;> decide
  have hz : ∀ z ∈ [0, 0xff264070de7a00ea84218312670ab1e5c06d2f45,
      0x199b049d6aa51837ad74d3b6eac56a441a21f822, 0xea35d917e34234c7746ab0ea4f2227536085ebd1],
      ∀ key ∈ [2, 5], ¬ z + (aacs1.mul 7 aacs1.g).x % aacs1.n * key ≡ 0 [MOD aacs1.n] := by
    decide +kernel
  have hsome := aacs1_valid.signWith_isSome crypto.sha1 (aacs1.encode key).toList msg (k := 7)
    (EcDomain.fromBytesBe_encode aacs1_valid.width_pos (by decide)) (by decide) (by decide +kernel)
    (by rw [EcDomain.fromBytesBe_encode aacs1_valid.width_pos hlt]
        exact hz _ (sha1_cases msg) key (by simpa using hk))
  obtain ⟨sig, hs⟩ := Option.isSome_iff_exists.mp hsome
  obtain ⟨k, r, s, hsig, rfl⟩ := aacs1_valid.signs_of_signWith hs
  rw [EcDomain.fromBytesBe_encode aacs1_valid.width_pos hlt] at hsig
  exact ⟨k, r, s, hsig, by unfold sign; rw [hs]; rfl⟩

def anchors : Anchors :=
  ⟨aacs1.encode (aacs1.mul 5 aacs1.g).x, aacs1.encode (aacs1.mul 5 aacs1.g).y,
    Vector.replicate 32 0, Vector.replicate 32 0⟩

def cert : List UInt8 :=
  certBody ++ ((sign 5 certBody).1.toList ++ (sign 5 certBody).2.toList)

theorem cert_signed : verifyCertWithAnchor crypto cert anchors.v1X anchors.v1Y = true := by
  have hv : ∀ x : Vector UInt8 20, x.toList.length = 20 := fun x => Vector.length_toList
  have hbody : certBody.length = 52 := by decide +kernel
  have hlen : cert.length = 92 := by
    unfold cert
    simp only [List.length_append, hv, hbody]
  have hr : cert.extract 52 72 = (sign 5 certBody).1.toList := extract_part _ hbody (by rw [hv])
  have hs : cert.extract 72 92 = (sign 5 certBody).2.toList := by
    unfold cert
    rw [← List.append_assoc]
    exact extract_end _ (by simp only [List.length_append, hv, hbody]) (by rw [hv])
  have hmsg : cert.take 52 = certBody := by
    unfold cert
    rw [← hbody, List.take_left']
    rfl
  obtain ⟨k, r, s, hsig, hsign⟩ := sign_signs (.inr rfl) certBody
  unfold verifyCertWithAnchor
  rw [if_neg (by omega), hr, hs, hmsg, copyFromSlice_toList, copyFromSlice_toList, hsign]
  exact aacs1_valid.verify_of_signs (by decide)
    (HonestDrive.fromBytesBe_encode_mul (by decide)).symm hsig

/-- Private key two, ephemeral three, bus encryption announced. -/
def drive : HonestDrive crypto anchors where
  key := 2
  ephemeral := 3
  cert := cert
  nonce := driveNonce
  agid := 2
  vid := block 0x40404040404040404040404040404040
  encRdk := block 0x9d9f3eb3113e76f3160b015ac542d694
  encWdk := block 0x9d9f3eb3113e76f3160b015ac542d694
  key_range := by decide
  ephemeral_range := by decide
  agid_lt := by decide
  cert_type := by decide +kernel
  cert_length := by decide +kernel
  cert_key := by decide +kernel
  cert_signed := cert_signed

theorem usable_unitCert : v1CredsUsable unitCert = true := by decide +kernel

theorem find_unitCert : [unitCert].find? (HonestDrive.Usable false) = some unitCert :=
  List.find?_cons_of_pos (by simp [HonestDrive.Usable, usable_unitCert])

theorem exists_run : ∃ fuel ch τ,
    Run (runCertHandshakeWithAnchors crypto fuel [unitCert] anchors false) τ (.ok ch) := by
  have hk : drive.contract.KeptBy (drive.handler (sign 2)) Prod.fst :=
    drive.keptBy_handler (sign_signs (.inl rfl))
  obtain ⟨N, ch, τ, s', hN⟩ :=
    drive.exec_runCertHandshake find_unitCert usable_unitCert hk drive.fairRandom_handler
      (⟨[], []⟩, 1)
  exact ⟨N, ch, τ, run_of_exec (hN N le_rfl)⟩

end Sample

/-- An honest drive and a host whose first usable entry has 1.0 credentials always complete:
every run succeeds and agrees, and under fair randomness there is one. -/
theorem runCertHandshake_honest {c : Crypto} {la : Anchors} (d : HonestDrive c la)
    {certs : List HostCert} {allowP256 : Bool} {hc : HostCert}
    (hfirst : certs.find? (HonestDrive.Usable allowP256) = some hc)
    (hu : v1CredsUsable hc = true) :
    (∀ fuel u τ r v, Run (runCertHandshakeWithAnchors c fuel certs la allowP256) τ r →
      d.contract.Follows u τ v → ∃ ch, r = .ok ch ∧ d.Completes fuel hc ch τ v) ∧
    ∀ (σ : Type) (h : Handler Scsi σ) (view : σ → Heard), d.contract.KeptBy h view →
      FairRandom h → ∀ s, ∃ N ch τ s', ∀ fuel ≥ N,
        exec h (runCertHandshakeWithAnchors c fuel certs la allowP256) s =
          some (.ok ch, τ, s') :=
  ⟨fun _ _ _ _ _ h hf => d.run_runCertHandshake hfirst hu h hf,
    fun _ _ _ hk hr s => d.exec_runCertHandshake hfirst hu hk hr s⟩

theorem runCertHandshake_honest_sample : ∃ fuel ch τ v,
    Run (runCertHandshakeWithAnchors Sample.crypto fuel [unitCert] Sample.anchors false) τ
      (.ok ch) ∧ Sample.drive.Completes fuel unitCert ch τ v := by
  obtain ⟨hall, hexists⟩ :=
    runCertHandshake_honest Sample.drive Sample.find_unitCert Sample.usable_unitCert
  have hk : Sample.drive.contract.KeptBy (Sample.drive.handler (Sample.sign 2)) Prod.fst :=
    Sample.drive.keptBy_handler (Sample.sign_signs (.inl rfl))
  obtain ⟨N, ch, τ, s', hN⟩ :=
    hexists _ _ _ hk Sample.drive.fairRandom_handler (⟨[], []⟩, 1)
  have hrun := run_of_exec (hN N le_rfl)
  obtain ⟨ch', hch, hcomp⟩ := hall N _ τ _ s'.1 hrun (hk.follows (hN N le_rfl))
  exact ⟨N, ch', τ, s'.1, hch ▸ hrun, hcomp⟩

end FreemkvUnlock.Aacs
