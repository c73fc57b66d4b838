import FreemkvUnlock.Aacs.HostSignature
import FreemkvUnlock.Interaction.Contract

/-! # The honest drive

A drive that holds a long-term key with a certificate under the trust anchor, draws an
ephemeral point, signs the nonce it was sent and authenticates its Volume ID under the bus key
of the point it was sent. Everything else it answers is left open.
-/

namespace FreemkvUnlock.Aacs

open Interaction Bytes

structure HonestDrive (c : Crypto) (la : Anchors) where
  key : ℕ
  ephemeral : ℕ
  cert : List UInt8
  nonce : Vector UInt8 20
  agid : UInt8
  vid : Vector UInt8 16
  encRdk : Vector UInt8 16
  encWdk : Vector UInt8 16
  key_range : key ≠ 0 ∧ key < aacs1.n
  ephemeral_range : ephemeral ≠ 0 ∧ ephemeral < aacs1.n
  agid_lt : agid < 4
  cert_type : cert.getD 0 0 = 0x01
  cert_length : cert.length = 92
  cert_key : aacs1.mul key aacs1.g =
    EcPoint.new (fromBytesBe (cert.extract 12 32)) (fromBytesBe (cert.extract 32 52))
  cert_signed : verifyCertWithAnchor c cert la.v1X la.v1Y = true

structure Heard where
  certMsg : List UInt8
  keyMsg : List UInt8

def Heard.hear (v : Heard) : Op → Heard
  | .execute cdb _ data _ =>
    if cdb.headD 0 ≠ scsiSendKey then v
    else if cdbFormat cdb = 0x01 then { v with certMsg := data }
    else if cdbFormat cdb = 0x02 then { v with keyMsg := data }
    else v
  | _ => v

def Heard.hostPoint (v : Heard) : EcPoint :=
  EcPoint.new (fromBytesBe (v.keyMsg.extract 4 24)) (fromBytesBe (v.keyMsg.extract 24 44))

namespace HonestDrive

variable {c : Crypto} {la : Anchors} (d : HonestDrive c la)

def point : EcPoint := aacs1.mul d.ephemeral aacs1.g

/-- The drive's bus key: the low 128 bits of its shared point's x-coordinate. -/
def busKey (v : Heard) : Vector UInt8 16 :=
  copyFromSlice 16 (toBytesBePadded ((aacs1.mul d.ephemeral v.hostPoint).x % 2 ^ 128) 16)

/-- What the drive serves in reply to a read that asks for all of it; commands not named here
are answered freely. -/
structure Replies (v : Heard) (cdb bytes : List UInt8) : Prop where
  agid : IsReportKey cdb 0x00 → 8 ≤ bytes.length → bytes.getD 7 0 >>> 6 = d.agid
  cert : IsReportKey cdb 0x01 → 116 ≤ bytes.length →
    bytes.extract 4 24 = d.nonce.toList ∧ bytes.extract 24 116 = d.cert
  key : IsReportKey cdb 0x02 → 84 ≤ bytes.length →
    bytes.extract 4 24 = (aacs1.encode d.point.x).toList ∧
    bytes.extract 24 44 = (aacs1.encode d.point.y).toList ∧
    ∃ k r s, aacs1.Signs d.key
        (fromBytesBe (c.sha1 (v.certMsg.extract 4 24 ++ bytes.extract 4 44))) k r s ∧
      bytes.extract 44 64 = (aacs1.encode r).toList ∧
      bytes.extract 64 84 = (aacs1.encode s).toList
  volumeId : cdb.headD 0 = scsiReadDiscStructure → cdb.getD 7 0 = 0x80 → 36 ≤ bytes.length →
    bytes.extract 4 20 = d.vid.toList ∧
    bytes.extract 20 36 = (aesCmac16 c d.vid (d.busKey v)).toList
  dataKeys : cdb.headD 0 = scsiReadDiscStructure → cdb.getD 7 0 = 0x84 → 36 ≤ bytes.length →
    bytes.extract 4 20 = d.encRdk.toList ∧ bytes.extract 20 36 = d.encWdk.toList

/-- Every command is answered GOOD and in full, a read with what the drive serves. -/
def Answers (v : Heard) : Event Scsi → Prop
  | ⟨.execute cdb dir data _, o⟩ =>
    (∃ r, (o : Outcome data.length).result = .ok r ∧ r.status = 0 ∧
      data.length ≤ r.bytesTransferred) ∧ (dir = .fromDevice → d.Replies v cdb o.data.toList)
  | _ => True

/-- The drive as a contract on the host's environment; the host's randomness is free. -/
def contract : Contract Scsi Heard where
  allows v e v' := d.Answers v e ∧ v' = v.hear e.1

/-- The data key the drive's reply decrypts to, when its certificate announces bus encryption
and the key block is not all zero. -/
def readDataKey (v : Heard) : Option (Vector UInt8 16) :=
  if d.cert.getD 1 0 &&& 0x01 ≠ 0 ∧
      ¬ (d.encRdk = Vector.replicate 16 0 ∧ d.encWdk = Vector.replicate 16 0) then
    some (aesEcbDecrypt c (d.busKey v) d.encRdk)
  else none

/-! ## The drive's arithmetic -/

/-- The host's bus key for the drive's point is the drive's for the host's point. -/
theorem busKey_agree {k : ℕ} (hk : k ≠ 0 ∧ k < aacs1.n) {v : Heard}
    (hP : v.hostPoint = aacs1.mul k aacs1.g) :
    aacs1.busKey (aacs1.encode k).toList (aacs1.encode d.point.x).toList
      (aacs1.encode d.point.y).toList = some (d.busKey v) := by
  have hV := aacs1_valid
  obtain ⟨px, py, hp, hon, hpx, hpy⟩ := hV.mul_generator (k := d.ephemeral)
    (by rw [Nat.mod_eq_of_lt d.ephemeral_range.2]; exact d.ephemeral_range.1)
  have hpoint : d.point = EcPoint.new px py := hp
  have hprod : (k * d.ephemeral) % aacs1.n ≠ 0 := fun h0 => by
    rcases hV.order_prime.dvd_mul.mp (Nat.dvd_of_mod_eq_zero h0) with h | h
    · exact Nat.not_dvd_of_pos_of_lt (Nat.pos_of_ne_zero hk.1) hk.2 h
    · exact Nat.not_dvd_of_pos_of_lt (Nat.pos_of_ne_zero d.ephemeral_range.1)
        d.ephemeral_range.2 h
  obtain ⟨sx, sy, hs, -, hsx, -⟩ := hV.mul_generator hprod
  have hshared : aacs1.mul k (EcPoint.new px py) = EcPoint.new sx sy := by
    rw [← hp, ← hs]
    exact ecMul_mul hV.curve hV.generator k d.ephemeral
  have hdrive : aacs1.mul d.ephemeral v.hostPoint = EcPoint.new sx sy := by
    rw [hP, hV.mul_comm, hp, hshared]
  have hlow : (toBytesBePadded sx 20).drop 4 = toBytesBePadded (sx % 2 ^ 128) 16 := by
    have hlt : sx < 256 ^ 20 := hsx.trans hV.p_lt
    have hmod : sx % 2 ^ 128 < 256 ^ 16 := Nat.mod_lt _ (by decide)
    refine fromBytesBe_injective (by simp) ?_
    rw [fromBytesBe_drop, fromBytesBe_toBytesBePadded (by decide) hlt,
      fromBytesBe_toBytesBePadded (by decide) hmod]
    simp
  unfold EcDomain.busKey busKey
  rw [hpoint, hdrive]
  simp only [EcPoint.new, EcDomain.fromBytesBe_encode hV.width_pos (hk.2.trans hV.n_lt),
    EcDomain.fromBytesBe_encode hV.width_pos (hpx.trans hV.p_lt),
    EcDomain.fromBytesBe_encode hV.width_pos (hpy.trans hV.p_lt)] at hshared ⊢
  have hslice : (toBytesBePadded sx aacs1.width).drop (aacs1.width - 16) =
      toBytesBePadded (sx % 2 ^ 128) 16 := hlow
  simp [hon, hshared, hslice]

theorem key_mod : d.key % aacs1.n ≠ 0 := by
  rw [Nat.mod_eq_of_lt d.key_range.2]
  exact d.key_range.1

theorem certPubKey_cert :
    certPubKey d.cert =
      (copyFromSlice 20 (d.cert.extract 12 32), copyFromSlice 20 (d.cert.extract 32 52)) := by
  unfold certPubKey
  rw [if_neg (by rw [d.cert_length]; omega)]

theorem verify_key {data sigR sigS : List UInt8} {k r s : ℕ}
    (hs : aacs1.Signs d.key (fromBytesBe (c.sha1 data)) k r s)
    (hr : sigR = (aacs1.encode r).toList) (hS : sigS = (aacs1.encode s).toList) :
    ecdsaVerify c (certPubKey d.cert).1 (certPubKey d.cert).2 (copyFromSlice 20 sigR)
      (copyFromSlice 20 sigS) data = true := by
  have hl := d.cert_length
  have hR : copyFromSlice 20 sigR = aacs1.encode r := by rw [hr]; exact copyFromSlice_toList _
  have hS' : copyFromSlice 20 sigS = aacs1.encode s := by rw [hS]; exact copyFromSlice_toList _
  rw [d.certPubKey_cert, hR, hS']
  unfold ecdsaVerify
  have hx : (copyFromSlice 20 (d.cert.extract 12 32)).toList = d.cert.extract 12 32 :=
    toList_copyFromSlice_extract rfl (by omega)
  have hy : (copyFromSlice 20 (d.cert.extract 32 52)).toList = d.cert.extract 32 52 :=
    toList_copyFromSlice_extract rfl (by omega)
  simp only [hx, hy]
  exact aacs1_valid.verify_of_signs d.key_mod d.cert_key hs

theorem checkDriveCert_cert : checkDriveCert c d.cert la = .ok () := by
  unfold checkDriveCert
  rw [if_pos d.cert_type, if_pos d.cert_signed]

/-! ## Steps of the host -/

variable {fuel : ℕ} {P : Heard → Prop}

theorem hear_of_opcode {cdb : List UInt8} (h : cdb.headD 0 ≠ scsiSendKey) (v : Heard)
    (dir : DataDirection) (data : List UInt8) (t : ℕ) : v.hear (.execute cdb dir data t) = v :=
  if_pos h

theorem ensures_fillBytes (n : ℕ) :
    d.contract.Ensures P (Scsi.fillBytes n) fun _ v => P v :=
  .ask fun _ _ _ hP ⟨_, hv⟩ => hv ▸ hP

theorem ensures_generateHostKeyPair :
    d.contract.Ensures P (generateHostKeyPair fuel) fun _ v => P v :=
  .retry (.bind (d.ensures_fillBytes _) fun bytes => .pure fun v hP => by
    cases aacs1.keyPairWith bytes.toList <;> exact hP) fuel

theorem ensures_ecdsaSign {k : Vector UInt8 20} {data : List UInt8} :
    d.contract.Ensures P (ecdsaSign c fuel k data) fun _ v => P v :=
  .retry (.bind (d.ensures_fillBytes _) fun bytes => .pure fun v hP => by
    cases aacs1.signWith c.sha1 k.toList data bytes.toList <;> exact hP) fuel

theorem succeeds_scsiRead {cdb : List UInt8} {len : ℕ} (h : cdb.headD 0 ≠ scsiSendKey) :
    d.contract.Succeeds P (scsiRead cdb len) fun bytes v =>
      P v ∧ bytes.length = len ∧ d.Replies v cdb bytes := by
  refine .seq (.lift (.ask (Q := fun (o : Outcome _) v => P v ∧
    (∃ r, o.result = .ok r ∧ r.status = 0 ∧ len ≤ r.bytesTransferred) ∧
      d.Replies v cdb o.data.toList) ?_)) fun o => .result ?_
  · rintro v o v' hP ⟨⟨⟨r, hr, hs, hl⟩, hrep⟩, rfl⟩
    simp only [hear_of_opcode h]
    exact ⟨hP, ⟨r, hr, hs, List.length_replicate (n := len) ▸ hl⟩, hrep rfl⟩
  · rintro v ⟨hP, ⟨r, hr, hs, hl⟩, hrep⟩
    exact ⟨_, readReply_ok_iff.mpr ⟨r, hr, hs, by rwa [List.length_replicate], rfl⟩, hP, by simp,
      hrep⟩

theorem succeeds_scsiWrite {cdb data : List UInt8} :
    d.contract.Succeeds P (scsiWrite cdb data) fun _ v =>
      ∃ u, P u ∧ v = u.hear (.execute cdb .toDevice data 5000) := by
  refine .seq (.lift (.ask (Q := fun (o : Outcome data.length) v =>
    (∃ u, P u ∧ v = u.hear (.execute cdb .toDevice data 5000)) ∧
    ∃ r, o.result = .ok r ∧ r.status = 0) ?_)) fun o => .result ?_
  · rintro v o v' hP ⟨⟨⟨r, hr, hs, -⟩, -⟩, rfl⟩
    exact ⟨⟨v, hP, rfl⟩, r, hr, hs⟩
  · rintro v ⟨hu, r, hr, hs⟩
    exact ⟨(), writeReply_ok_iff.mpr ⟨r, hr, hs⟩, hu⟩

theorem isReportKey_cdbReportKey {agid : UInt8} (h : agid < 4) (format : UInt8) (len : UInt16) :
    IsReportKey (cdbReportKey agid format len).toList (format &&& 0x3F) :=
  ⟨rfl, (agidBits h format).2⟩

theorem opcode_cdbReportKey {agid format : UInt8} {len : UInt16} :
    (cdbReportKey agid format len).toList.headD 0 ≠ scsiSendKey := by
  simp [cdbReportKey, cdbKey, scsiReportKey, scsiSendKey]

theorem opcode_cdbReportDiscStructure {agid format : UInt8} {len : UInt16} :
    (cdbReportDiscStructure agid format len).toList.headD 0 ≠ scsiSendKey := by
  simp [cdbReportDiscStructure, scsiReadDiscStructure, scsiSendKey]

theorem hear_cdbSendKey_certMsg {agid : UInt8} (h : agid < 4) (v : Heard) (len : UInt16)
    (data : List UInt8) :
    v.hear (.execute (cdbSendKey agid 0x01 len).toList .toDevice data 5000) =
      { v with certMsg := data } := by
  have hf : cdbFormat (cdbSendKey agid 0x01 len).toList = 0x01 := (agidBits h 0x01).2
  have ho : (cdbSendKey agid 0x01 len).toList.headD 0 = scsiSendKey := rfl
  simp only [Heard.hear, hf, ho, ne_eq, not_true_eq_false, if_false, if_true]

theorem hear_cdbSendKey_keyMsg {agid : UInt8} (h : agid < 4) (v : Heard) (len : UInt16)
    (data : List UInt8) :
    v.hear (.execute (cdbSendKey agid 0x02 len).toList .toDevice data 5000) =
      { v with keyMsg := data } := by
  have hf : cdbFormat (cdbSendKey agid 0x02 len).toList = 0x02 := (agidBits h 0x02).2
  have ho : (cdbSendKey agid 0x02 len).toList.headD 0 = scsiSendKey := rfl
  have hne : (0x02 : UInt8) ≠ 0x01 := by decide
  simp only [Heard.hear, hf, ho, ne_eq, not_true_eq_false, if_false, if_neg hne, if_true]

/-! ## Authentication -/

structure Agreed (hostCert : List UInt8) (auth : AacsAuth) (v : Heard) : Prop where
  agid : auth.agid = d.agid
  busKey : auth.busKey = d.busKey v
  busEncryption : auth.busEncryptionCapable = decide (d.cert.getD 1 0 &&& 0x01 ≠ 0)
  /-- The host signed the drive's nonce with the point it sent along. -/
  signed : ecdsaVerify c (certPubKey hostCert).1 (certPubKey hostCert).2
    (copyFromSlice 20 (v.keyMsg.extract 44 64)) (copyFromSlice 20 (v.keyMsg.extract 64 84))
    (d.nonce.toList ++ v.keyMsg.extract 4 44) = true

theorem fromBytesBe_encode_mul {k : ℕ} (hk : k ≠ 0 ∧ k < aacs1.n) :
    EcPoint.new (fromBytesBe (aacs1.encode (aacs1.mul k aacs1.g).x).toList)
      (fromBytesBe (aacs1.encode (aacs1.mul k aacs1.g).y).toList) = aacs1.mul k aacs1.g := by
  have hV := aacs1_valid
  obtain ⟨x, y, hxy, -, hx, hy⟩ := hV.mul_generator (k := k)
    (by rw [Nat.mod_eq_of_lt hk.2]; exact hk.1)
  simp only [hxy, EcPoint.new, EcDomain.fromBytesBe_encode hV.width_pos (hx.trans hV.p_lt),
    EcDomain.fromBytesBe_encode hV.width_pos (hy.trans hV.p_lt)]

theorem extract_keyMsg {header : List UInt8} (hh : header.length = 4)
    (x y sigR sigS : Vector UInt8 20) :
    let m := header ++ x.toList ++ y.toList ++ sigR.toList ++ sigS.toList
    m.extract 4 24 = x.toList ∧ m.extract 24 44 = y.toList ∧ m.extract 44 64 = sigR.toList ∧
      m.extract 64 84 = sigS.toList := by
  have hl : ∀ v : Vector UInt8 20, v.toList.length = 20 := fun v => Vector.length_toList
  refine ⟨?_, ?_, ?_, ?_⟩
  · rw [List.append_assoc, List.append_assoc, List.append_assoc]
    exact extract_part _ hh (by rw [hl])
  · rw [List.append_assoc, List.append_assoc]
    exact extract_part _ (by simp [hh]) (by rw [hl])
  · rw [List.append_assoc]
    exact extract_part _ (by simp [hh]) (by rw [hl])
  · exact extract_end _ (by simp [hh]) (by rw [hl])

theorem succeeds_aacsAuthenticateWithAgid {k : Vector UInt8 20} {hostCert : List UInt8}
    (hk : aacs1KeypairMatches k hostCert = true) :
    d.contract.Succeeds (fun _ => True) (aacsAuthenticateWithAgid c fuel d.agid k hostCert la)
      (d.Agreed hostCert) := by
  refine .seq (.lift (d.ensures_fillBytes 20)) fun hostNonce => ?_
  refine .seq (.lift (.of_run (fun τ a h => EcDomain.run_generateKeyPair h)
    d.ensures_generateHostKeyPair)) fun ⟨key, x, y⟩ => .static ?_
  rintro ⟨e, he, hkey, hx, hy⟩
  dsimp only at hkey hx hy
  refine .seq (R := fun _ v => v.certMsg.extract 4 24 = hostNonce.toList)
    (.mapErr (.mapErr (d.succeeds_scsiWrite.post ?_))) fun _ => ?_
  · rintro - v ⟨u, -, rfl⟩
    rw [hear_cdbSendKey_certMsg d.agid_lt, List.append_assoc]
    exact extract_part _ rfl (by simp)
  refine .seq (R := fun response v => (response.extract 4 24 = d.nonce.toList ∧
      response.extract 24 116 = d.cert) ∧ v.certMsg.extract 4 24 = hostNonce.toList)
    (.mapErr (.mapErr ((d.succeeds_scsiRead opcode_cdbReportKey).post ?_)))
    fun certReply => .static ?_
  · rintro bytes v ⟨hv, hlen, hrep⟩
    exact ⟨hrep.cert (isReportKey_cdbReportKey d.agid_lt 0x01 116) hlen.ge, hv⟩
  rintro ⟨hnonce, hcert⟩
  rw [hnonce, hcert]
  refine .seq (R := fun _ v => v.certMsg.extract 4 24 = hostNonce.toList)
    (.result fun v hv => ⟨(), d.checkDriveCert_cert, hv⟩) fun _ => ?_
  refine .seq (R := fun response v => (response.length = 84 ∧
      response.extract 4 24 = (aacs1.encode d.point.x).toList ∧
      response.extract 24 44 = (aacs1.encode d.point.y).toList ∧
      ∃ k r s, aacs1.Signs d.key
          (fromBytesBe (c.sha1 (hostNonce.toList ++ response.extract 4 44))) k r s ∧
        response.extract 44 64 = (aacs1.encode r).toList ∧
        response.extract 64 84 = (aacs1.encode s).toList) ∧ True)
    (.mapErr (.mapErr ((d.succeeds_scsiRead opcode_cdbReportKey).post ?_)))
    fun keyReply => .static ?_
  · rintro bytes v ⟨hv, hlen, hrep⟩
    rw [← hv]
    exact ⟨⟨hlen, hrep.key (isReportKey_cdbReportKey d.agid_lt 0x02 84) hlen.ge⟩, trivial⟩
  rintro ⟨hlen, hpx, hpy, n, r, s, hsigns, hr, hs⟩
  refine .seq (.ensure fun v _ => ?_) fun _ => ?_
  · rw [take_extract _ 44 84 20 (by omega), extract_extract _ 44 84 20 40 (by omega)]
    exact d.verify_key hsigns hr hs
  refine .seq (.lift (.of_run (fun τ a h => ecdsaVerify_of_keypairMatches hk h)
    d.ensures_ecdsaSign)) fun ⟨sigR, sigS⟩ => .static fun hver => ?_
  refine .seq (.ensure fun v _ => hver) fun _ => ?_
  refine .seq (R := fun _ v => v.hostPoint = aacs1.mul e aacs1.g ∧
      ecdsaVerify c (certPubKey hostCert).1 (certPubKey hostCert).2
        (copyFromSlice 20 (v.keyMsg.extract 44 64)) (copyFromSlice 20 (v.keyMsg.extract 64 84))
        (d.nonce.toList ++ v.keyMsg.extract 4 44) = true)
    (.mapErr (.mapErr (d.succeeds_scsiWrite.post ?_))) fun _ => ?_
  · rintro - v ⟨u, -, rfl⟩
    rw [hear_cdbSendKey_keyMsg d.agid_lt]
    obtain ⟨hex, hey, hsr, hss⟩ :=
      extract_keyMsg (show [0x00, 0x52, 0x00, 0x00].length = 4 from rfl) x y sigR sigS
    dsimp only at hex hey hsr hss ⊢
    rw [← extract_append_extract _ (show 4 ≤ 24 by omega) (show 24 ≤ 44 by omega), hex, hey, hsr,
      hss, copyFromSlice_toList, copyFromSlice_toList, ← List.append_assoc]
    refine ⟨?_, hver⟩
    unfold Heard.hostPoint
    rw [hex, hey, hx, hy]
    exact fromBytesBe_encode_mul he
  have hbus : computeBusKey key (copyFromSlice 20 ((keyReply.extract 4 44).take 20))
      (copyFromSlice 20 ((keyReply.extract 4 44).extract 20 40)) =
      aacs1.busKey (aacs1.encode e).toList (aacs1.encode d.point.x).toList
        (aacs1.encode d.point.y).toList := by
    unfold computeBusKey
    rw [take_extract _ 4 44 20 (by omega), extract_extract _ 4 44 20 40 (by omega),
      toList_copyFromSlice_extract rfl (by omega), toList_copyFromSlice_extract rfl (by omega),
      hpx, hpy, hkey]
    rfl
  rw [hbus]
  refine .seq (R := fun busKey v => busKey = d.busKey v ∧
      ecdsaVerify c (certPubKey hostCert).1 (certPubKey hostCert).2
        (copyFromSlice 20 (v.keyMsg.extract 44 64)) (copyFromSlice 20 (v.keyMsg.extract 64 84))
        (d.nonce.toList ++ v.keyMsg.extract 4 44) = true)
    (.result fun v hv => ⟨d.busKey v, okOr_eq_ok_iff.mpr (d.busKey_agree he hv.1), rfl, hv.2⟩)
    fun busKey => .ret fun v hv => ⟨rfl, hv.1, rfl, hv.2⟩

theorem ensures_invalidateAgids (agids : List UInt8) :
    d.contract.Ensures P (invalidateAgids agids) fun _ v => P v := by
  induction agids with
  | nil => exact .pure fun _ => id
  | cons agid agids ih =>
    exact .bind ((d.succeeds_scsiRead opcode_cdbReportKey).ensures.post
      fun _ v ⟨_, _, h⟩ => h.1) fun _ => ih

theorem succeeds_allocateAgid :
    d.contract.Succeeds P allocateAgid fun agid v => agid = d.agid ∧ P v := by
  refine .seq (.mapErr (d.succeeds_scsiRead opcode_cdbReportKey)) fun bytes => .ret ?_
  rintro v ⟨hP, hlen, hrep⟩
  rw [(agid_of_byte _).1]
  exact ⟨hrep.agid (by decide) hlen.ge, hP⟩

theorem succeeds_aacs1Ake {k : Vector UInt8 20} {hostCert : List UInt8}
    (hlen : 92 ≤ hostCert.length) (hk : aacs1KeypairMatches k hostCert = true) :
    d.contract.Succeeds (fun _ => True) (aacs1Ake c fuel k hostCert la)
      fun r v => d.Agreed hostCert r.1 v := by
  refine .seq (.ensure fun _ _ => hlen) fun _ => ?_
  refine .seq (.lift (d.ensures_invalidateAgids _)) fun _ => ?_
  refine .seq (.mapErr d.succeeds_allocateAgid) fun agid => .static ?_
  rintro rfl
  refine Contract.Ensures.bind (d.succeeds_aacsAuthenticateWithAgid hk) fun r => ?_
  rcases r with e | auth
  · rintro u τ r v ⟨_, h, -⟩
    cases h
  · exact .pure fun v ⟨_, h, ha⟩ => ⟨_, rfl, Except.ok.inj h ▸ ha⟩

/-! ## Finishing -/

variable {hostCert : List UInt8} {auth : AacsAuth}

theorem succeeds_readVolumeId :
    d.contract.Succeeds (d.Agreed hostCert auth) (readVolumeId c auth) fun r v =>
      r = (d.vid, { auth with volumeId := some d.vid }) ∧ d.Agreed hostCert auth v := by
  refine .seq (R := fun bytes v => (bytes.extract 4 20 = d.vid.toList ∧
      bytes.extract 20 36 = (aesCmac16 c d.vid auth.busKey).toList) ∧ d.Agreed hostCert auth v)
    (.mapErr ((d.succeeds_scsiRead opcode_cdbReportDiscStructure).post ?_))
    fun bytes => .static ?_
  · rintro bytes v ⟨ha, hlen, hrep⟩
    rw [ha.busKey]
    exact ⟨hrep.volumeId rfl rfl hlen.ge, ha⟩
  rintro ⟨hvid, hmac⟩
  rw [hvid, hmac, copyFromSlice_toList, copyFromSlice_toList]
  exact .seq (.ensure fun _ _ => ctEq16_self _) fun _ => .ret fun v ha => ⟨rfl, ha⟩

/-- The data-key read; a key block that is all zero is refused. -/
theorem ensures_readDataKeys (hP : ∀ v, P v → auth.busKey = d.busKey v) :
    d.contract.Ensures P (readDataKeys c auth).run fun r v => P v ∧
      if d.encRdk = Vector.replicate 16 0 ∧ d.encWdk = Vector.replicate 16 0 then
        r = .error .aacsDataKey
      else ∃ wdk auth', r = .ok ((aesEcbDecrypt c (d.busKey v) d.encRdk, wdk), auth') := by
  refine Contract.Succeeds.then_ensures (R := fun bytes v =>
    (bytes.extract 4 20 = d.encRdk.toList ∧ bytes.extract 20 36 = d.encWdk.toList) ∧ P v)
    (.mapErr ((d.succeeds_scsiRead opcode_cdbReportDiscStructure).post ?_))
    fun bytes => .static ?_
  · rintro bytes v ⟨ha, hlen, hrep⟩
    exact ⟨hrep.dataKeys rfl rfl hlen.ge, ha⟩
  rintro ⟨hr, hw⟩
  rw [hr, hw, copyFromSlice_toList, copyFromSlice_toList]
  by_cases hz : d.encRdk = Vector.replicate 16 0 ∧ d.encWdk = Vector.replicate 16 0
  · simp only [hz, and_self, not_true_eq_false, Fallible.ensure, if_false, if_true]
    exact .pure fun v ha => ⟨ha, rfl⟩
  · simp only [hz, not_false_eq_true, Fallible.ensure, if_true, if_false]
    exact .pure fun v ha => ⟨ha, _, _, by rw [hP v ha]⟩

theorem succeeds_finishReads :
    d.contract.Succeeds (d.Agreed hostCert auth) (finishReads c auth) fun ch v =>
      d.Agreed hostCert auth v ∧ ch.volumeId = d.vid ∧ ch.readDataKey = d.readDataKey v := by
  refine .seq (.mapErr d.succeeds_readVolumeId) fun ⟨vid, auth'⟩ => .static fun hr => ?_
  obtain ⟨rfl, rfl⟩ := Prod.mk.inj hr
  by_cases hb : auth.busEncryptionCapable = true
  · simp only [hb, if_true]
    refine .seq (.lift (d.ensures_readDataKeys fun v ha => ha.busKey)) fun r => ?_
    by_cases hz : d.encRdk = Vector.replicate 16 0 ∧ d.encWdk = Vector.replicate 16 0
    · rintro u τ o v ⟨ha, hr⟩ hrun hfol
      rw [if_pos hz] at hr
      subst hr
      obtain ⟨rfl, rfl⟩ := run_fallible_pure_iff.mp hrun
      obtain rfl := Contract.follows_nil_iff.mp hfol
      exact ⟨_, rfl, ha, rfl, (if_neg fun h => h.2 hz).symm⟩
    · rintro u τ o v ⟨ha, hr⟩ hrun hfol
      rw [if_neg hz] at hr
      obtain ⟨wdk, auth', rfl⟩ := hr
      obtain ⟨rfl, rfl⟩ := run_fallible_pure_iff.mp hrun
      obtain rfl := Contract.follows_nil_iff.mp hfol
      rw [ha.busEncryption, decide_eq_true_eq] at hb
      exact ⟨_, rfl, ha, rfl, (if_pos ⟨hb, hz⟩).symm⟩
  · simp only [hb]
    refine .ret fun v ha => ⟨ha, rfl, ?_⟩
    rw [ha.busEncryption, decide_eq_true_eq] at hb
    exact (if_neg fun h => hb h.1).symm

/-! ## A drive that keeps the contract -/

def reply (sign : List UInt8 → Vector UInt8 20 × Vector UInt8 20) (v : Heard) (cdb : List UInt8) :
    List UInt8 :=
  let point := (aacs1.encode d.point.x).toList ++ (aacs1.encode d.point.y).toList
  if IsReportKey cdb 0x00 then [0, 0, 0, 0, 0, 0, 0, d.agid <<< 6]
  else if IsReportKey cdb 0x01 then [0x00, 0x72, 0x00, 0x00] ++ (d.nonce.toList ++ d.cert)
  else if IsReportKey cdb 0x02 then
    let (r, s) := sign (v.certMsg.extract 4 24 ++ point)
    [0x00, 0x52, 0x00, 0x00] ++ (point ++ (r.toList ++ s.toList))
  else if cdb.headD 0 = scsiReadDiscStructure then
    let (first, second) := if cdb.getD 7 0 = 0x80 then (d.vid, aesCmac16 c d.vid (d.busKey v))
      else (d.encRdk, d.encWdk)
    [0x00, 0x22, 0x00, 0x00] ++ (first.toList ++ second.toList)
  else []

/-- The drive as a handler; the host draws the byte strings in counting order. -/
def handler (sign : List UInt8 → Vector UInt8 20 × Vector UInt8 20) : Handler Scsi (Heard × ℕ)
  | .execute cdb dir data t, (v, i) =>
    (⟨.ok ⟨0, data.length, Vector.replicate 32 0⟩, copyFromSlice data.length (d.reply sign v cdb)⟩,
      (v.hear (.execute cdb dir data t), i))
  | .executeCleanup _ _ data _, s =>
    (⟨.ok ⟨0, data.length, Vector.replicate 32 0⟩, Vector.replicate data.length 0⟩, s)
  | .pause _, s => (.ok (), s)
  | .beginCritical, s => (.ok (), s)
  | .endCritical, s => ((), s)
  | .now, s => ((0 : ℕ), s)
  | .fillBytes n, (v, i) => (copyFromSlice n (toBytesBePadded (i % 256 ^ n) n), (v, i + 1))
  | .diagnosticMemory _ _ _, s => (.error .other, s)
  | .quietDrive, s => (.failed none, s)

theorem extract_copyFromSlice {n i j : ℕ} {bs : List UInt8} (hn : j ≤ n) (hb : j ≤ bs.length) :
    (copyFromSlice n bs).toList.extract i j = bs.extract i j := by
  apply List.ext_getElem
  · rw [length_extract _ (by simpa using hn), length_extract _ hb]
  · intro k h₁ h₂
    rw [length_extract _ hb] at h₂
    simp only [List.extract_eq_take_drop, List.getElem_take, List.getElem_drop]
    simp [copyFromSlice, List.getElem?_eq_getElem (show i + k < bs.length by omega)]

theorem getD_copyFromSlice {n i : ℕ} {bs : List UInt8} (hn : i < n) :
    (copyFromSlice n bs).toList.getD i 0 = bs.getD i 0 := by
  simp [copyFromSlice, List.getD_eq_getElem?_getD, hn]

theorem extract_structure {n : ℕ} {bs : List UInt8} {a b : Vector UInt8 16} (hn : 36 ≤ n)
    (hb : bs = [0x00, 0x22, 0x00, 0x00] ++ (a.toList ++ b.toList)) :
    (copyFromSlice n bs).toList.extract 4 20 = a.toList ∧
      (copyFromSlice n bs).toList.extract 20 36 = b.toList := by
  have hv : ∀ x : Vector UInt8 16, x.toList.length = 16 := fun x => Vector.length_toList
  have hlen : bs.length = 36 := by rw [hb]; simp
  rw [extract_copyFromSlice (by omega) (by omega), extract_copyFromSlice (by omega) (by omega), hb]
  refine ⟨extract_part _ rfl (by rw [hv]), ?_⟩
  rw [← List.append_assoc]
  exact extract_end _ (by simp) (by rw [hv])

theorem agid_shift {agid : UInt8} (h : agid < 4) : (agid <<< 6) >>> 6 = agid := by
  have hb := (agidBits h 0).1
  simpa using hb

theorem format_unique {cdb : List UInt8} {f f' : UInt8} (h : IsReportKey cdb f) (hne : f ≠ f') :
    ¬ IsReportKey cdb f' := fun h' => hne (h.2.symm.trans h'.2)

theorem replies_reply {sign : List UInt8 → Vector UInt8 20 × Vector UInt8 20}
    (hs : ∀ msg, ∃ k r s, aacs1.Signs d.key (fromBytesBe (c.sha1 msg)) k r s ∧
      sign msg = (aacs1.encode r, aacs1.encode s)) (v : Heard) (cdb : List UInt8) (n : ℕ) :
    d.Replies v cdb (copyFromSlice n (d.reply sign v cdb)).toList := by
  have hl : (copyFromSlice n (d.reply sign v cdb)).toList.length = n := Vector.length_toList
  have hv : ∀ {m} (x : Vector UInt8 m), x.toList.length = m := fun x => Vector.length_toList
  have hreport : cdb.headD 0 = scsiReadDiscStructure → ∀ f, ¬ IsReportKey cdb f :=
    fun ho f hk => absurd (ho.symm.trans hk.1) (by decide)
  constructor
  · intro hk hn
    have hr : d.reply sign v cdb = ([0, 0, 0, 0, 0, 0, 0, d.agid <<< 6] : List UInt8) := if_pos hk
    rw [getD_copyFromSlice (by omega), hr]
    exact agid_shift d.agid_lt
  · intro hk hn
    have hr : d.reply sign v cdb =
        [0x00, 0x72, 0x00, 0x00] ++ (d.nonce.toList ++ d.cert) := by
      unfold reply
      rw [if_neg (format_unique hk (by decide)), if_pos hk]
    have hlen : (d.reply sign v cdb).length = 116 := by
      rw [hr]; simp only [List.length_append, hv, d.cert_length]; rfl
    rw [extract_copyFromSlice (by omega) (by omega), extract_copyFromSlice (by omega) (by omega),
      hr]
    refine ⟨extract_part _ rfl (by rw [hv]), ?_⟩
    rw [← List.append_assoc]
    exact extract_end _ (by simp) (by rw [d.cert_length])
  · intro hk hn
    obtain ⟨k, r, s, hsig, hsign⟩ := hs (v.certMsg.extract 4 24 ++
      ((aacs1.encode d.point.x).toList ++ (aacs1.encode d.point.y).toList))
    set ex : Vector UInt8 20 := aacs1.encode d.point.x
    set ey : Vector UInt8 20 := aacs1.encode d.point.y
    set er : Vector UInt8 20 := aacs1.encode r
    set es : Vector UInt8 20 := aacs1.encode s
    have hr : d.reply sign v cdb =
        [0x00, 0x52, 0x00, 0x00] ++ ex.toList ++ ey.toList ++ er.toList ++ es.toList := by
      unfold reply
      rw [if_neg (format_unique hk (by decide)), if_neg (format_unique hk (by decide)), if_pos hk]
      dsimp only
      rw [hsign]
      simp only [List.append_assoc]
      rfl
    have hlen : (d.reply sign v cdb).length = 84 := by
      rw [hr]; simp only [List.length_append, hv]; rfl
    obtain ⟨h₁, h₂, h₃, h₄⟩ :=
      extract_keyMsg (show [0x00, 0x52, 0x00, 0x00].length = 4 from rfl) ex ey er es
    rw [← hr] at h₁ h₂ h₃ h₄
    rw [extract_copyFromSlice (by omega) (by omega), extract_copyFromSlice (by omega) (by omega),
      extract_copyFromSlice (by omega) (by omega), extract_copyFromSlice (by omega) (by omega),
      extract_copyFromSlice (by omega) (by omega), ← extract_append_extract _
      (show 4 ≤ 24 by omega) (show 24 ≤ 44 by omega), h₁, h₂]
    exact ⟨rfl, rfl, k, r, s, hsig, h₃, h₄⟩
  · intro ho hf hn
    exact extract_structure (by omega) (by simp only [reply, hreport ho, ho, hf, if_false, if_true])
  · intro ho hf hn
    have hne : (0x84 : UInt8) ≠ 0x80 := by decide
    exact extract_structure (by omega)
      (by simp only [reply, hreport ho, ho, hf, hne, if_false, if_true])

theorem keptBy_handler {sign : List UInt8 → Vector UInt8 20 × Vector UInt8 20}
    (hs : ∀ msg, ∃ k r s, aacs1.Signs d.key (fromBytesBe (c.sha1 msg)) k r s ∧
      sign msg = (aacs1.encode r, aacs1.encode s)) :
    d.contract.KeptBy (d.handler sign) Prod.fst := by
  rintro o ⟨v, i⟩
  cases o with
  | execute cdb dir data t =>
    exact ⟨⟨⟨_, rfl, rfl, le_rfl⟩, fun _ => d.replies_reply hs v cdb _⟩, rfl⟩
  | _ => exact ⟨trivial, rfl⟩

end HonestDrive

end FreemkvUnlock.Aacs
