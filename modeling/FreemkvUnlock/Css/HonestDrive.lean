import Mathlib.Data.List.GetD
import FreemkvUnlock.Css.Ledger
import FreemkvUnlock.Interaction.Contract
import FreemkvUnlock.Interaction.History
import FreemkvUnlock.Interaction.Termination

/-! # Challenge and response with an honest drive

An honest drive answers the host's challenge with its first key, under a variant of its own, and
sends a challenge in return; both go over the wire last byte first. The host finds the variant
and answers with the second key. Whatever the drive, no second key is sent before a first key
that some variant explains.
-/

namespace FreemkvUnlock.Css

open Interaction Fallible

/-! ## Commands and their bytes -/

theorem agid_clear_table : ∀ a < 256, (UInt8.ofNat a <<< 6) &&& (0x3F : UInt8) = 0 := by
  decide +kernel

theorem formatBits (agid format : UInt8) :
    ((agid <<< 6) ||| (format &&& 0x3F)) &&& 0x3F = format &&& 0x3F := by
  have h : (agid <<< 6) &&& (0x3F : UInt8) = 0 := by
    simpa using agid_clear_table agid.toNat agid.toNat_lt
  have hd (a b c : UInt8) : (a ||| b) &&& c = (a &&& c) ||| (b &&& c) :=
    UInt8.toBitVec_inj.1 BitVec.and_or_distrib_right
  rw [hd, h, UInt8.zero_or, UInt8.and_assoc, UInt8.and_self]

theorem cdbFormat_keyCdb (opcode agid format : UInt8) (len : UInt16) :
    cdbFormat (keyCdb opcode agid format len).toList = format &&& 0x3F := formatBits agid format

/-- The `n` bytes from place 4 of a message, last byte first. -/
def unreversed (n : ℕ) (bytes : List UInt8) : Vector UInt8 n :=
  Vector.ofFn fun i => bytes.getD (4 + (n - 1 - i)) 0

theorem driveChallenge_eq (bytes : List UInt8) : driveChallenge bytes = unreversed 10 bytes := rfl

theorem reverse_extract {bytes : List UInt8} (h : 9 ≤ bytes.length) :
    (bytes.extract 4 9).reverse = (unreversed 5 bytes).toList := by
  refine List.ext_getElem (by simp; omega) fun i h₁ h₂ => ?_
  have hi : i < 5 := by simpa using h₂
  have hlen : (bytes.extract 4 9).length = 5 := by simp; omega
  have hplace : bytes.length > 4 + (5 - 1 - i) := by omega
  simp [unreversed, List.getElem_reverse, hplace]
  congr 1
  omega

theorem unreversed_append {n : ℕ} {header trailer : List UInt8} (hh : header.length = 4)
    (v : Vector UInt8 n) : unreversed n (header ++ v.toList.reverse ++ trailer) = v := by
  refine Vector.ext fun i hi => ?_
  have hplace : n - 1 - i < v.toList.reverse.length := by simp; omega
  simp only [unreversed, Vector.getElem_ofFn, List.append_assoc]
  rw [List.getD_append_right _ _ _ _ (by omega), hh, Nat.add_sub_cancel_left,
    List.getD_append _ _ _ _ hplace, List.getD_eq_getElem _ _ hplace, List.getElem_reverse]
  simp only [Vector.length_toList, Vector.getElem_toList]
  congr 1
  omega

/-- The variant found is the first that explains the key. -/
theorem findVariant_eq_some_iff {hostChallenge : Vector UInt8 10} {key1 : List UInt8}
    {w : Fin 32} : findVariant hostChallenge key1 = some w ↔
      (cryptKey 0 w hostChallenge).toList = key1 ∧
        ∀ w' < w, (cryptKey 0 w' hostChallenge).toList ≠ key1 := by
  unfold findVariant
  rw [List.find?_eq_some_iff_getElem]
  simp only [beq_iff_eq, List.getElem_finRange, Bool.not_eq_true', beq_eq_false_iff_ne]
  refine and_congr_right fun _ => ⟨?_, ?_⟩
  · rintro ⟨i, hi, rfl, hmin⟩ w' hw
    exact hmin w' hw
  · intro h
    exact ⟨w, by simp, by simp, fun j hj => h _ hj⟩

/-- What a SEND KEY carries under a key format. -/
def SendsKey {n : ℕ} (format : UInt8) (v : Vector UInt8 n) (e : Event Scsi) : Prop :=
  match e.1 with
  | .execute cdb _ data _ =>
    cdb.headD 0 = scsiSendKey ∧ cdbFormat cdb = format ∧ unreversed n data = v
  | _ => False

def Received (format : UInt8) (bytes : List UInt8) : Event Scsi → Prop
  | ⟨.execute cdb _ data _, o⟩ =>
    IsReportKey cdb format ∧ (o : Outcome data.length).data.toList = bytes ∧
      ∃ r, o.result = .ok r ∧ r.status = 0 ∧ data.length ≤ r.bytesTransferred
  | _ => False

theorem received_reportKey {agid format : UInt8} {len : UInt16} {data : List UInt8} {n t : ℕ}
    (hf : format &&& 0x3F = format) (hn : data.length = n) {o : Outcome data.length}
    {bytes : List UInt8} (h : cssReply n o = .ok bytes) :
    Received format bytes
      ⟨.execute (reportKeyCdb agid format len).toList .fromDevice data t, o⟩ := by
  obtain ⟨r, hr, hs, hl, rfl⟩ := cssReply_ok_iff.mp h
  exact ⟨⟨rfl, (cdbFormat_keyCdb ..).trans hf⟩, rfl, r, hr, hs, hn ▸ hl⟩

/-! ## The drive -/

structure HonestDrive where
  variant : Fin 32
  challenge : Vector UInt8 10

structure Heard where
  hostChallenge : Vector UInt8 10
  key2 : Vector UInt8 5

def Heard.hear (u : Heard) : Op → Heard
  | .execute cdb _ data _ =>
    if cdb.headD 0 ≠ scsiSendKey then u
    else if cdbFormat cdb = 0x01 then { u with hostChallenge := unreversed 10 data }
    else if cdbFormat cdb = 0x03 then { u with key2 := unreversed 5 data }
    else u
  | _ => u

namespace HonestDrive

variable (d : HonestDrive)

structure Replies (u : Heard) (cdb bytes : List UInt8) : Prop where
  key1 : IsReportKey cdb 0x02 → 12 ≤ bytes.length →
    unreversed 5 bytes = cryptKey 0 d.variant u.hostChallenge
  challenge : IsReportKey cdb 0x01 → 16 ≤ bytes.length → unreversed 10 bytes = d.challenge

/-- Every command is answered GOOD, and a read in full with what the drive serves. -/
def Answers (u : Heard) : Event Scsi → Prop
  | ⟨.execute cdb dir data _, o⟩ =>
    (∃ r, (o : Outcome data.length).result = .ok r ∧ r.status = 0 ∧
      (dir = .fromDevice → data.length ≤ r.bytesTransferred)) ∧
    (dir = .fromDevice → d.Replies u cdb o.data.toList)
  | _ => True

/-- The drive as a contract on the host's environment; the host's randomness is free. -/
def contract : Contract Scsi Heard where
  allows u e v := d.Answers u e ∧ v = u.hear e.1

/-- No smaller variant gives the drive's first key. -/
def First (hostChallenge : Vector UInt8 10) : Prop :=
  ∀ w < d.variant, cryptKey 0 w hostChallenge ≠ cryptKey 0 d.variant hostChallenge

variable {d} {β : Type} {τ : List (Event Scsi)} {u v : Heard} {cdb buf : List UInt8}
  {dir : DataDirection} {minBytes : ℕ}

/-- A command of the host is answered, and the rest runs on what the drive served. -/
theorem run_cssScsi_bind {f : List UInt8 → Session β} {r : Except Error β}
    (hmin : minBytes = 0 ∨ dir = .fromDevice ∧ minBytes = buf.length)
    (h : Run (cssScsi cdb dir buf minBytes >>= f).run τ r) (hf : d.contract.Follows u τ v) :
    ∃ (o : Outcome buf.length) (τ' : List (Event Scsi)),
      τ = ⟨.execute cdb dir buf 5000, o⟩ :: τ' ∧ cssReply minBytes o = .ok o.data.toList ∧
      (dir = .fromDevice → d.Replies u cdb o.data.toList) ∧
      Run (f o.data.toList).run τ' r ∧
      d.contract.Follows (u.hear (.execute cdb dir buf 5000)) τ' v := by
  have hok : ∀ (o : Outcome buf.length) w,
      d.contract.allows u ⟨.execute cdb dir buf 5000, o⟩ w →
      cssReply minBytes o = .ok o.data.toList ∧
        (dir = .fromDevice → d.Replies u cdb o.data.toList) ∧
        w = u.hear (.execute cdb dir buf 5000) := by
    rintro o w ⟨⟨⟨res, hres, hs, hl⟩, hrep⟩, hw⟩
    refine ⟨cssReply_ok_iff.mpr ⟨res, hres, hs, ?_, rfl⟩, hrep, hw⟩
    rcases hmin with rfl | ⟨hdir, rfl⟩
    · exact Nat.zero_le _
    · exact hl hdir
  rcases run_fallible_bind_iff.mp h with ⟨e, rfl, h₁⟩ | ⟨τ₁, bytes, τ₂, rfl, h₁, h₂⟩
  · obtain ⟨o, rfl, hr⟩ := run_cssScsi_iff.mp h₁
    obtain ⟨w, ha, -⟩ := Contract.follows_cons_iff.mp hf
    rw [(hok o w ha).1] at hr
    cases hr
  · obtain ⟨o, rfl, hr⟩ := run_cssScsi_iff.mp h₁
    obtain ⟨w, ha, hrest⟩ := Contract.follows_cons_iff.mp hf
    obtain ⟨hgood, hrep, rfl⟩ := hok o w ha
    obtain rfl : bytes = o.data.toList := Except.ok.inj (hr.trans hgood)
    exact ⟨o, τ₂, rfl, hgood, hrep, h₂, hrest⟩

theorem hear_reportKeyCdb {agid format : UInt8} {len : UInt16} {data : List UInt8} {t : ℕ} :
    u.hear (.execute (reportKeyCdb agid format len).toList dir data t) = u := by
  have ho : (reportKeyCdb agid format len).toList.headD 0 ≠ scsiSendKey :=
    show scsiReportKey ≠ scsiSendKey by decide
  simp only [Heard.hear, if_pos ho]

theorem hear_sendKeyCdb {agid format : UInt8} {len : UInt16} {data : List UInt8} {t : ℕ} :
    u.hear (.execute (sendKeyCdb agid format len).toList dir data t) =
      if format &&& 0x3F = 0x01 then { u with hostChallenge := unreversed 10 data }
      else if format &&& 0x3F = 0x03 then { u with key2 := unreversed 5 data }
      else u := by
  have ho : (sendKeyCdb agid format len).toList.headD 0 = scsiSendKey := rfl
  have hfmt : cdbFormat (sendKeyCdb agid format len).toList = format &&& 0x3F :=
    cdbFormat_keyCdb ..
  simp only [Heard.hear, ho, hfmt, ne_eq, not_true_eq_false, if_false]

theorem hear_key2 (e : Event Scsi) :
    (u.hear e.1).key2 = u.key2 ∨ SendsKey 0x03 (u.hear e.1).key2 e := by
  obtain ⟨o, a⟩ := e
  cases o with
  | execute cdb dir data t =>
    unfold Heard.hear
    dsimp only
    split_ifs with hop hf hf
    · exact .inl rfl
    · exact .inl rfl
    · exact .inr ⟨not_not.mp hop, hf, rfl⟩
    · exact .inl rfl
  | _ => exact .inl rfl

theorem sendsKey_of_follows (h : d.contract.Follows u τ v) :
    v.key2 = u.key2 ∨ ∃ e ∈ τ, SendsKey 0x03 v.key2 e := by
  induction h with
  | nil => exact .inl rfl
  | @cons u w v e τ ha _ ih =>
    obtain ⟨-, rfl⟩ := ha
    rcases ih with hv | ⟨e', he', hs⟩
    · rw [hv]
      refine (hear_key2 e).imp_right fun hs => ⟨e, List.mem_cons_self, hs⟩
    · exact .inr ⟨e', List.mem_cons_of_mem _ he', hs⟩

structure Completes (d : HonestDrive) (hostChallenge : Vector UInt8 10) (τ : List (Event Scsi))
    (r : Except Error Unit) (v : Heard) : Prop where
  succeeds : r = .ok ()
  finds : ∃ e ∈ τ, ∃ bytes, Received 0x02 bytes e ∧
    findVariant hostChallenge (bytes.extract 4 9).reverse = some d.variant
  decodes : v.key2 = cryptKey 1 d.variant d.challenge

theorem run_authenticateWithAgid {agid : UInt8} {hostChallenge : Vector UInt8 10}
    {r : Except Error Unit} (hfirst : d.First hostChallenge)
    (h : Run (authenticateWithAgid agid).run (⟨.fillBytes 10, hostChallenge⟩ :: τ) r)
    (hf : d.contract.Follows u τ v) : d.Completes hostChallenge τ r v := by
  have hlen : ∀ {n : ℕ} (o : Outcome (List.replicate n (0 : UInt8)).length),
      n ≤ o.data.toList.length := fun o => by simp
  rcases run_fallible_bind_iff.mp h with ⟨e, -, h₁⟩ | ⟨τ₁, hc, τ₂, hτ, h₁, h₂⟩
  · obtain ⟨a, -, ha⟩ := run_lift_iff.mp h₁
    cases ha
  obtain ⟨a, hdraw, ha⟩ := run_lift_iff.mp h₁
  obtain rfl := Except.ok.inj ha
  obtain rfl := run_ask_iff.mp hdraw
  simp only [List.cons_append, List.nil_append, List.cons.injEq] at hτ
  obtain ⟨he, rfl⟩ := hτ
  cases he
  -- the host's challenge
  obtain ⟨o₁, τ₁, rfl, -, -, h₁, f₁⟩ := run_cssScsi_bind (.inl rfl) h₂ hf
  rw [hear_sendKeyCdb, if_pos (by decide), unreversed_append rfl] at f₁
  -- the first key
  obtain ⟨o₂, τ₂, rfl, hr₂, hrep₂, h₂, f₂⟩ := run_cssScsi_bind (.inr ⟨rfl, by simp⟩) h₁ f₁
  rw [hear_reportKeyCdb] at f₂
  have hkey : unreversed 5 o₂.data.toList = cryptKey 0 d.variant hostChallenge :=
    (hrep₂ rfl).key1 ⟨rfl, cdbFormat_keyCdb ..⟩ (hlen o₂)
  have hvariant : findVariant hostChallenge (o₂.data.toList.extract 4 9).reverse =
      some d.variant := by
    rw [reverse_extract (Nat.le_trans (by decide) (hlen o₂)), hkey]
    exact findVariant_eq_some_iff.mpr
      ⟨rfl, fun w hw hk => hfirst w hw (Vector.toList_inj.mp hk)⟩
  dsimp only at h₂
  rw [hvariant] at h₂
  obtain ⟨τ₃, w, τ₄, rfl, h₃, h₄⟩ : ∃ τ₃ w τ₄, τ₂ = τ₃ ++ τ₄ ∧ _ := by
    rcases run_fallible_bind_iff.mp h₂ with ⟨e, -, h₃⟩ | h
    · exact absurd (run_result_iff.mp h₃).2 nofun
    · exact h
  obtain ⟨rfl, hw⟩ := run_result_iff.mp h₃
  obtain rfl := Except.ok.inj hw
  -- the drive's challenge
  obtain ⟨o₃, τ₃, rfl, hr₃, hrep₃, h₃, f₃⟩ := run_cssScsi_bind (.inr ⟨rfl, by simp⟩) h₄ f₂
  rw [hear_reportKeyCdb] at f₃
  have hchallenge : unreversed 10 o₃.data.toList = d.challenge :=
    (hrep₃ rfl).challenge ⟨rfl, cdbFormat_keyCdb ..⟩ (hlen o₃)
  -- the second key
  obtain ⟨o₄, τ₄, rfl, -, -, h₄, f₄⟩ := run_cssScsi_bind (.inl rfl) h₃ f₃
  rw [hear_sendKeyCdb, if_neg (by decide), if_pos (by decide), unreversed_append rfl,
    driveChallenge_eq, hchallenge] at f₄
  obtain ⟨rfl, rfl⟩ := run_fallible_pure_iff.mp h₄
  obtain rfl := Contract.follows_nil_iff.mp f₄
  exact ⟨rfl, ⟨_, List.mem_cons_of_mem _ (List.mem_cons_self ..), _,
    received_reportKey (by decide) (by simp) hr₂, hvariant⟩, rfl⟩

/-! ## A drive that answers -/

def reply (d : HonestDrive) (u : Heard) (cdb : List UInt8) : List UInt8 :=
  if IsReportKey cdb 0x02 then
    [0, 0, 0, 0] ++ (cryptKey 0 d.variant u.hostChallenge).toList.reverse ++ [0, 0, 0]
  else if IsReportKey cdb 0x01 then [0, 0, 0, 0] ++ d.challenge.toList.reverse ++ [0, 0]
  else []

def handler (d : HonestDrive) : Handler Scsi Heard
  | .execute cdb dir data t, u =>
    (⟨.ok ⟨0, data.length, Vector.replicate 32 0⟩, Vector.ofFn fun i => (d.reply u cdb).getD i 0⟩,
      u.hear (.execute cdb dir data t))
  | .executeCleanup _ _ data _, u =>
    (⟨.ok ⟨0, data.length, Vector.replicate 32 0⟩, Vector.replicate data.length 0⟩, u)
  | .pause _, u => (.ok (), u)
  | .beginCritical, u => (.ok (), u)
  | .endCritical, u => ((), u)
  | .now, u => ((0 : ℕ), u)
  | .fillBytes n, u => (Vector.replicate n 0, u)
  | .diagnosticMemory _ _ _, u => (.error .other, u)
  | .quietDrive, u => (.failed none, u)

/-- Cut to the length asked for, the reply still carries what stands in its first bytes. -/
theorem unreversed_ofFn {n m : ℕ} {bytes : List UInt8} (h : 4 + n ≤ m) :
    unreversed n (Vector.ofFn fun i : Fin m => bytes.getD i 0).toList = unreversed n bytes := by
  refine Vector.ext fun i hi => ?_
  have hplace : 4 + (n - 1 - i) < m := by omega
  simp [unreversed, hplace]

theorem keptBy_handler : d.contract.KeptBy d.handler id := by
  intro o u
  cases o with
  | execute cdb dir data t =>
    refine ⟨⟨⟨_, rfl, rfl, fun _ => Nat.le_refl _⟩,
      fun _ => ⟨fun hk hn => ?_, fun hk hn => ?_⟩⟩, rfl⟩
    · rw [Vector.length_toList] at hn
      have hr : d.reply u cdb = _ := if_pos hk
      exact (unreversed_ofFn (by omega)).trans (hr ▸ unreversed_append rfl _)
    · rw [Vector.length_toList] at hn
      have hne : ¬ IsReportKey cdb 0x02 := fun h => absurd (hk.2.symm.trans h.2) (by decide)
      have hr : d.reply u cdb = _ := (if_neg hne).trans (if_pos hk)
      exact (unreversed_ofFn (by omega)).trans (hr ▸ unreversed_append rfl _)
  | _ => exact ⟨trivial, rfl⟩

theorem settles_cssScsi {σ : Type} {h : Handler Scsi σ} :
    Settles h fun _ => (cssScsi cdb dir buf minBytes).run :=
  .seq (.lift (.ask _)) fun _ => .result _

/-- The host may draw any challenge, and the drive then answers to the end. -/
theorem exists_run (agid : UInt8) {hostChallenge : Vector UInt8 10}
    (hfirst : d.First hostChallenge) (u : Heard) : ∃ τ v,
      Run (authenticateWithAgid agid).run (⟨.fillBytes 10, hostChallenge⟩ :: τ) (.ok ()) ∧
      d.contract.Follows u τ v := by
  obtain ⟨rest, heq, hsettles⟩ : ∃ rest : Vector UInt8 10 → Session Unit,
      authenticateWithAgid agid = ExceptT.lift (Scsi.fillBytes 10) >>= rest ∧
      ∀ hc, Settles d.handler fun _ => (rest hc).run :=
    ⟨_, rfl, fun _ => .seq settles_cssScsi fun _ => .seq settles_cssScsi fun _ =>
      .seq (.result _) fun _ => .seq settles_cssScsi fun _ => .seq settles_cssScsi fun _ =>
        .ret _⟩
  obtain ⟨⟨r, τ, v⟩, N, hN⟩ := hsettles hostChallenge u
  have hexec := hN N (Nat.le_refl N)
  have hfollows : d.contract.Follows u τ v := keptBy_handler.follows hexec
  have hrun : Run (authenticateWithAgid agid).run (⟨.fillBytes 10, hostChallenge⟩ :: τ) r := by
    rw [heq, run_fallible_bind_iff]
    exact .inr ⟨[_], hostChallenge, τ, rfl, run_lift_iff.mpr ⟨_, run_ask_iff.mpr rfl, rfl⟩,
      run_of_exec hexec⟩
  obtain rfl := (run_authenticateWithAgid hfirst hrun hfollows).succeeds
  exact ⟨τ, v, hrun, hfollows⟩

end HonestDrive

/-! ## Any drive -/

/-- What stands before a second key: a challenge, a first key that a variant explains, a
challenge in return. The key answers it under the smallest such variant. -/
def Earned (key2 : Vector UInt8 5) (h : List (Event Scsi)) : Prop :=
  ∃ hostChallenge e₁ e₂ e₃ b₂ b₃ w,
    h = [⟨.fillBytes 10, hostChallenge⟩, e₁, e₂, e₃] ∧ SendsKey 0x01 hostChallenge e₁ ∧
    Received 0x02 b₂ e₂ ∧ Received 0x01 b₃ e₃ ∧
    cryptKey 0 w hostChallenge = unreversed 5 b₂ ∧
    (∀ w' < w, cryptKey 0 w' hostChallenge ≠ unreversed 5 b₂) ∧
    key2 = cryptKey 1 w (unreversed 10 b₃)

/-- A second key is sent only when it is earned. -/
def Deserved (h : List (Event Scsi)) (e : Event Scsi) : Prop :=
  ∀ key2 : Vector UInt8 5, SendsKey 0x03 key2 e → Earned key2 h

section Deserved

variable {P : List (Event Scsi) → Prop} {cdb buf : List UInt8} {dir : DataDirection}
  {minBytes : ℕ}

theorem secures_cssScsi
    (hG : ∀ h o, P h → Deserved h ⟨.execute cdb dir buf 5000, o⟩) :
    Secures Deserved P (cssScsi cdb dir buf minBytes) fun bytes h =>
      ∃ h' o, P h' ∧ cssReply minBytes o = .ok bytes ∧
        h = h' ++ [⟨.execute cdb dir buf 5000, o⟩] := by
  refine .seq (R := fun (o : Outcome buf.length) h =>
      ∃ h', P h' ∧ h = h' ++ [⟨.execute cdb dir buf 5000, o⟩])
    (.lift (.ask hG fun h r hP => ⟨h, hP, rfl⟩)) fun o => .result ?_
  rintro h bytes ⟨h', hP, rfl⟩ hr
  exact ⟨h', o, hP, hr.symm ▸ rfl, rfl⟩

theorem deserved_keyCdb {opcode agid format : UInt8} {len : UInt16} {h : List (Event Scsi)}
    (hne : opcode ≠ scsiSendKey ∨ format &&& 0x3F ≠ 0x03) (o) :
    Deserved h ⟨.execute (keyCdb opcode agid format len).toList dir buf 5000, o⟩ := by
  rintro key2 ⟨hop, hformat, -⟩
  rw [cdbFormat_keyCdb] at hformat
  rcases hne with hne | hne
  · exact absurd hop hne
  · exact absurd hformat hne

theorem secures_authenticateWithAgid (agid : UInt8) :
    Secures Deserved (· = []) (authenticateWithAgid agid) fun _ _ => True := by
  refine .seq (R := fun (hc : Vector UInt8 10) h => h = [(⟨.fillBytes 10, hc⟩ : Event Scsi)])
    (.lift (.ask (fun _ _ _ _ hs => hs.elim) fun h hc hP => by rw [hP]; rfl)) fun hc => ?_
  refine .seq (secures_cssScsi fun h o _ => deserved_keyCdb (.inr (by decide)) o) fun _ => ?_
  refine .seq (secures_cssScsi fun h o _ => deserved_keyCdb (.inl (by decide)) o) fun b₂ => ?_
  refine .seq (.result fun h w hP hr => ⟨okOr_eq_ok_iff.mp hr, hP⟩) fun w => .static fun hw => ?_
  refine .seq (secures_cssScsi fun h o _ => deserved_keyCdb (.inl (by decide)) o) fun b₃ => ?_
  refine .seq (secures_cssScsi ?_) fun _ => .ret fun _ _ => trivial
  rintro _ o₄ ⟨_, o₃, ⟨_, o₂, ⟨_, o₁, rfl, hr₁, rfl⟩, hr₂, rfl⟩, hr₃, rfl⟩ key2 ⟨-, -, rfl⟩
  have hb₂ : b₂ = o₂.data.toList := by obtain ⟨_, -, -, -, h⟩ := cssReply_ok_iff.mp hr₂; exact h
  have hkey : (b₂.extract 4 9).reverse = (unreversed 5 b₂).toList :=
    reverse_extract (by rw [hb₂]; simp)
  rw [hkey] at hw
  obtain ⟨hfound, hmin⟩ := findVariant_eq_some_iff.mp hw
  refine ⟨hc, _, _, _, b₂, b₃, w, rfl, ⟨rfl, cdbFormat_keyCdb .., unreversed_append rfl hc⟩,
    received_reportKey (by decide) (by simp) hr₂, received_reportKey (by decide) (by simp) hr₃,
    Vector.toList_inj.mp hfound, fun w' hw' h => hmin w' hw' (congrArg _ h), ?_⟩
  exact unreversed_append rfl _

end Deserved

/-- With an honest drive whose first key no smaller variant gives, every run completes, and
there is one for every challenge of the host. With any transport a second key is earned. -/
theorem authenticateWithAgid_spec (agid : UInt8) :
    (∀ (d : HonestDrive) (hostChallenge : Vector UInt8 10) (u : Heard), d.First hostChallenge →
      (∀ τ r v, Run (authenticateWithAgid agid).run (⟨.fillBytes 10, hostChallenge⟩ :: τ) r →
        d.contract.Follows u τ v → d.Completes hostChallenge τ r v) ∧
      ∃ τ v, Run (authenticateWithAgid agid).run (⟨.fillBytes 10, hostChallenge⟩ :: τ) (.ok ()) ∧
        d.contract.Follows u τ v) ∧
    ∀ τ r, Run (authenticateWithAgid agid).run τ r →
      ∀ pre e post key2, τ = pre ++ e :: post → SendsKey 0x03 key2 e → Earned key2 pre := by
  refine ⟨fun d hc u hfirst => ⟨fun τ r v h hf => HonestDrive.run_authenticateWithAgid hfirst h hf,
    HonestDrive.exists_run agid hfirst u⟩, fun τ r h pre e post key2 hτ hs => ?_⟩
  exact (secures_authenticateWithAgid agid rfl h).1 pre e post hτ key2 hs

theorem authenticateWithAgid_spec_sample : ∃ (d : HonestDrive) (hostChallenge : Vector UInt8 10)
    (τ pre : List (Event Scsi)) (v : Heard),
    d.Completes hostChallenge τ (.ok ()) v ∧ pre <+: ⟨.fillBytes 10, hostChallenge⟩ :: τ ∧
      Earned v.key2 pre := by
  let d : HonestDrive := ⟨1, Vector.replicate 10 0⟩
  let hc : Vector UInt8 10 := Vector.replicate 10 0
  have hfirst : d.First hc := by
    intro w hw
    obtain rfl : w = 0 := Fin.ext (Nat.lt_one_iff.mp hw)
    decide +kernel
  obtain ⟨hall, τ, v, hrun, hf⟩ :=
    (authenticateWithAgid_spec 0).1 d hc ⟨hc, Vector.replicate 5 0⟩ hfirst
  have hdone := hall τ _ v hrun hf
  obtain ⟨e, he, hs⟩ : ∃ e ∈ τ, SendsKey 0x03 v.key2 e := by
    refine (HonestDrive.sendsKey_of_follows hf).resolve_left fun hkey => ?_
    have hne : cryptKey 1 d.variant d.challenge ≠ Vector.replicate 5 0 := by decide +kernel
    exact hne (hdone.decodes.symm.trans hkey)
  obtain ⟨pre, post, hpre⟩ := List.append_of_mem (List.mem_cons_of_mem ⟨.fillBytes 10, hc⟩ he)
  exact ⟨d, hc, τ, pre, v, hdone, ⟨e :: post, hpre.symm⟩,
    (authenticateWithAgid_spec 0).2 _ _ hrun pre e post v.key2 hpre hs⟩
end FreemkvUnlock.Css
