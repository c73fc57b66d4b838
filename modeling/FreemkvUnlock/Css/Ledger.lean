import FreemkvUnlock.Css.Session
import FreemkvUnlock.DeadBus

/-! # The CSS AGID ledger

An AGID the drive grants is released once when the authentication fails, after its last command,
and stays held when it succeeds, for the disc-key read that follows under it.
-/

namespace FreemkvUnlock.Css

open Interaction Fallible

def Releases (agid : UInt8) (e : Event Scsi) : Prop :=
  e.1 = .executeCleanup (agidReleaseCdb agid).toList .fromDevice (List.replicate 8 0) 5000

def ReadsDiscKey (agid : UInt8) (e : Event Scsi) : Prop :=
  e.1 = .execute (discKeyCdb agid).toList .fromDevice (List.replicate discKeyLen.toNat 0) 5000

theorem isCleanup_of_releases {agid : UInt8} {e : Event Scsi} (h : Releases agid e) :
    IsCleanup e := by
  unfold IsCleanup
  rw [show e.1 = _ from h]
  trivial

section Replies

variable {cdb buf : List UInt8} {dir : DataDirection} {minBytes n : ℕ} {τ : List (Event Scsi)}

theorem cssReply_ok_iff {o : Outcome n} {bytes : List UInt8} :
    cssReply minBytes o = .ok bytes ↔ ∃ r, o.result = .ok r ∧ r.status = 0 ∧
      minBytes ≤ r.bytesTransferred ∧ bytes = o.data.toList := by
  unfold cssReply
  rcases o.result with e | r
  · simp
  · simp only [Except.ok.injEq, exists_eq_left']
    split_ifs with hs hl
    · simp [hs]
    · simp only [false_iff]
      rintro ⟨-, h, -⟩
      omega
    · simp only [Except.ok.injEq, not_not] at hs ⊢
      simp only [hs, true_and]
      exact ⟨fun h => ⟨by omega, h.symm⟩, fun h => h.2.symm⟩

theorem run_cssScsi_iff {r : Except Error (List UInt8)} :
    Run (cssScsi cdb dir buf minBytes).run τ r ↔
      ∃ o : Outcome buf.length, τ = [⟨.execute cdb dir buf 5000, o⟩] ∧ r = cssReply minBytes o :=
  run_ask_result_iff

theorem issues_cssScsi {P : Event Scsi → Prop} (h : ∀ o, P ⟨.execute cdb dir buf 5000, o⟩) :
    Issues P (cssScsi cdb dir buf minBytes).run :=
  .seq (.lift (.ask h)) fun _ => .result _

end Replies

/-! ## What the commands carry -/

section Commands

variable {agid : UInt8} {dir : DataDirection} {data : List UInt8} {t : ℕ}

theorem inSession_keyCdb (h : agid < 4) {opcode format : UInt8} {len : UInt16}
    (hop : opcode ∈ [scsiReportKey, scsiSendKey]) (h0 : format &&& 0x3F ≠ 0x00)
    (h3F : format &&& 0x3F ≠ 0x3F) (o) :
    InSession agid ⟨.execute (keyCdb opcode agid format len).toList dir data t, o⟩ := by
  obtain ⟨hagid, hformat⟩ := agidBits h format
  have hf : cdbFormat (keyCdb opcode agid format len).toList = format &&& 0x3F := hformat
  refine ⟨?_, hagid, fun hr => h0 ?_, fun hr => h3F ?_⟩
  · have hm : opcode ∈ [scsiReportKey, scsiSendKey, scsiReadDiscStructure] := by
      simp only [List.mem_cons] at hop ⊢; tauto
    exact hm
  · rw [← hf]; exact hr.2
  · rw [← hf]; exact hr.2

theorem inSession_discKeyCdb (h : agid < 4) (o) :
    InSession agid ⟨.execute (discKeyCdb agid).toList dir data t, o⟩ := by
  have hagid := (agidBits h 0).1
  refine ⟨by simp [discKeyCdb], ?_, fun hr => ?_, fun hr => ?_⟩
  · simpa [cdbAgid, discKeyCdb] using hagid
  · simp [IsReportKey, discKeyCdb, scsiReadDiscStructure, scsiReportKey] at hr
  · simp [IsReportKey, discKeyCdb, scsiReadDiscStructure, scsiReportKey] at hr

theorem isReportKey_agidReleaseCdb (h : agid < 4) :
    IsReportKey (agidReleaseCdb agid).toList 0x3F := ⟨rfl, (agidBits h 0x3F).2⟩

theorem issues_authenticateWithAgid (h : agid < 4) :
    Issues (InSession agid) (authenticateWithAgid agid).run := by
  refine .seq (.lift (.ask fun r => inSession_fillBytes _ r)) fun hostChallenge => ?_
  refine .seq (issues_cssScsi (inSession_keyCdb h (by decide) (by decide) (by decide)))
    fun _ => ?_
  refine .seq (issues_cssScsi (inSession_keyCdb h (by decide) (by decide) (by decide)))
    fun dkBuf => ?_
  refine .seq (.result _) fun variant => ?_
  refine .seq (issues_cssScsi (inSession_keyCdb h (by decide) (by decide) (by decide)))
    fun dcBuf => ?_
  refine .seq (issues_cssScsi (inSession_keyCdb h (by decide) (by decide) (by decide)))
    fun _ => ?_
  exact .ret _

theorem run_readDiscKey {τ : List (Event Scsi)} {r : Except Error Unit}
    (h : Run (readDiscKey agid).run τ r) : ∃ e, τ = [e] ∧ ReadsDiscKey agid e := by
  rcases run_fallible_bind_iff.mp h with ⟨e, rfl, h₁⟩ | ⟨τ₁, bytes, τ₂, rfl, h₁, h₂⟩
  · obtain ⟨o, rfl, -⟩ := run_cssScsi_iff.mp h₁
    exact ⟨_, rfl, rfl⟩
  · obtain ⟨o, rfl, -⟩ := run_cssScsi_iff.mp h₁
    obtain ⟨rfl, -⟩ := run_fallible_pure_iff.mp h₂
    exact ⟨_, rfl, rfl⟩

end Commands

/-! ## The session -/

section Session

variable {τ : List (Event Scsi)} {agid : UInt8}

theorem not_opening_of_isSweep {e : Event Scsi} (h : IsSweep e) :
    grantedAgid e = none ∧ ¬ IsCleanup e := by
  obtain ⟨o, r⟩ := e
  cases o with
  | execute cdb dir data t =>
    have hk : cdbFormat cdb = 0x3F := IsReportKey.format h
    exact ⟨grantedAgid_execute (fun hc => absurd (hk.symm.trans hc.2) (by decide)) r, id⟩
  | _ => exact h.elim

theorem issues_invalidateAgid (h : agid < 4) : Issues IsSweep (invalidateAgid agid) :=
  .bind (.ask fun _ => isReportKey_agidReleaseCdb h) fun _ => .pure _

theorem issues_sweep : Issues IsSweep (do
    invalidateAgid 0
    invalidateAgid 1
    invalidateAgid 2
    invalidateAgid 3) :=
  .bind (issues_invalidateAgid (by decide)) fun _ => .bind (issues_invalidateAgid (by decide))
    fun _ => .bind (issues_invalidateAgid (by decide)) fun _ => issues_invalidateAgid (by decide)

theorem grantedAgid_allocation {cdb data : List UInt8} {d : DataDirection} {t n : ℕ}
    (h : IsReportKey cdb 0x00) (hn : n = data.length) (o : Outcome data.length) :
    grantedAgid ⟨.execute cdb d data t, o⟩ =
      (cssReply n o).toOption.map fun bytes : List UInt8 => (bytes.getD 7 0 >>> 6 : UInt8) := by
  subst hn
  rcases hr : cssReply data.length o with err | bytes
  · simp only [grantedAgid, Except.toOption, Option.map_none]
    split
    · rename_i r ho
      refine if_neg fun hc => ?_
      rw [cssReply_ok_iff.mpr ⟨r, ho, hc.2.1, hc.2.2, rfl⟩] at hr
      cases hr
    · rfl
  · obtain ⟨r, ho, hs, hl, rfl⟩ := cssReply_ok_iff.mp hr
    simp only [grantedAgid, ho, Except.toOption, Option.map_some]
    rw [if_pos ⟨h, hs, hl⟩]

theorem run_allocateAgid {r : Except Error UInt8} (h : Run allocateAgid.run τ r) :
    ∃ e, τ = [e] ∧ ¬ IsCleanup e ∧
      (∀ agid, r = .ok agid → grantedAgid e = some agid ∧ agid < 4) ∧
      ∀ err, r = .error err → grantedAgid e = none := by
  have hk : IsReportKey (reportKeyCdb 0 0x00 8).toList 0x00 := by decide
  have hgrant : ∀ o : Outcome (List.replicate 8 (0 : UInt8)).length,
      grantedAgid ⟨.execute (reportKeyCdb 0 0x00 8).toList .fromDevice (List.replicate 8 0) 5000,
        o⟩ = (cssReply 8 o).toOption.map fun bytes : List UInt8 => (bytes.getD 7 0 >>> 6 : UInt8) :=
    grantedAgid_allocation hk rfl
  rcases run_fallible_bind_iff.mp h with ⟨err, rfl, h₁⟩ | ⟨τ₁, bytes, τ₂, rfl, h₁, h₂⟩
  · obtain ⟨o, rfl, hr⟩ := run_cssScsi_iff.mp h₁
    refine ⟨_, rfl, id, nofun, fun _ _ => ?_⟩
    rw [hgrant, ← hr]
    rfl
  · obtain ⟨o, rfl, hr⟩ := run_cssScsi_iff.mp h₁
    obtain ⟨rfl, rfl⟩ := run_fallible_pure_iff.mp h₂
    refine ⟨_, rfl, id, fun agid ha => ?_, nofun⟩
    obtain rfl := Except.ok.inj ha
    obtain ⟨hb, hlt⟩ := agid_of_byte (bytes.getD 7 0)
    rw [hgrant, ← hr, hb]
    exact ⟨rfl, hlt⟩

theorem run_drop {u : Unit} (h : Run (agidGuard agid).drop τ u) :
    ∃ e, τ = [e] ∧ Releases agid e := by
  obtain ⟨τ₁, o, τ₂, rfl, h₁, h₂⟩ := run_bind_iff.mp h
  obtain ⟨rfl, -⟩ := run_pure_iff.mp h₂
  refine ⟨_, by simpa using run_ask_iff.mp h₁, ?_⟩
  unfold Releases
  simp only [releaseLen_agidGuard]
  rfl

/-- How a session that was granted an AGID ends: released on failure, held on success. -/
def Settled (agid : UInt8) (rest : List (Event Scsi)) (r : Except Error UInt8) : Prop :=
  ∃ body, (∀ e ∈ body, InSession agid e) ∧
    ((∃ err rel, r = .error err ∧ rest = body ++ [rel] ∧ Releases agid rel) ∨
      r = .ok agid ∧ rest = body)

/-- A session sweeps, allocates, and settles what it was granted. -/
theorem run_establishAuthenticatedSession {r : Except Error UInt8}
    (h : Run establishAuthenticatedSession.run τ r) :
    ∃ sweep alloc rest, τ = sweep ++ alloc :: rest ∧ (∀ e ∈ sweep, IsSweep e) ∧
      ¬ IsCleanup alloc ∧
      ((grantedAgid alloc = none ∧ rest = [] ∧ ∃ err, r = .error err) ∨
        ∃ agid, grantedAgid alloc = some agid ∧ agid < 4 ∧ Settled agid rest r) := by
  rcases run_fallible_bind_iff.mp h with ⟨err, rfl, h₁⟩ | ⟨τ₁, _, τ₂, rfl, h₁, k₁⟩
  · obtain ⟨a, -, ha⟩ := run_lift_iff.mp h₁
    cases ha
  have hsweep := issues_sweep (run_lift_ok_iff.mp h₁)
  rcases run_fallible_bind_iff.mp k₁ with ⟨err, rfl, h₂⟩ | ⟨τ₃, agid, τ₄, rfl, h₂, k₂⟩
  · obtain ⟨e, rfl, hclean, -, hnone⟩ := run_allocateAgid h₂
    exact ⟨τ₁, e, [], rfl, hsweep, hclean, .inl ⟨hnone err rfl, rfl, err, rfl⟩⟩
  obtain ⟨alloc, rfl, hclean, hok, -⟩ := run_allocateAgid h₂
  obtain ⟨hgrant, hlt⟩ := hok agid rfl
  refine ⟨τ₁, alloc, τ₄, by simp, hsweep, hclean, .inr ⟨agid, hgrant, hlt, ?_⟩⟩
  rcases run_fallible_bind_iff.mp k₂ with ⟨err, rfl, h₃⟩ | ⟨τ₅, p, τ₆, rfl, h₃, k₃⟩
  · obtain ⟨body, o, τ₆, rfl, h₄, k₄⟩ := run_bind_iff.mp h₃
    rcases o with err' | u
    · obtain ⟨τ₇, _, τ₈, rfl, h₅, k₅⟩ := run_bind_iff.mp k₄
      obtain ⟨rfl, -⟩ := run_pure_iff.mp k₅
      obtain ⟨rel, rfl, hrel⟩ := run_drop h₅
      exact ⟨body, issues_authenticateWithAgid hlt h₄, .inl ⟨err, rel, rfl, by simp, hrel⟩⟩
    · cases (run_pure_iff.mp k₄).2
  · obtain ⟨body, o, τ₇, rfl, h₄, k₄⟩ := run_bind_iff.mp h₃
    rcases o with err' | u
    · obtain ⟨τ₈, _, τ₉, rfl, -, k₅⟩ := run_bind_iff.mp k₄
      cases (run_pure_iff.mp k₅).2
    · obtain ⟨rfl, hp⟩ := run_pure_iff.mp k₄
      obtain rfl := Except.ok.inj hp
      obtain ⟨rfl, rfl⟩ := run_fallible_pure_iff.mp k₃
      exact ⟨body, issues_authenticateWithAgid hlt h₄, .inr ⟨rfl, by simp⟩⟩

/-- Reading scrambled sectors is unlocked by a held session followed by the disc-key read. -/
theorem run_unlockCssReads {r : Except Error Unit} (h : Run unlockCssReads.run τ r) :
    (∃ err, r = .error err ∧ Run establishAuthenticatedSession.run τ (.error err)) ∨
      ∃ σ disc agid, τ = σ ++ [disc] ∧ Run establishAuthenticatedSession.run σ (.ok agid) ∧
        ReadsDiscKey agid disc ∧ r = .ok () := by
  rcases run_fallible_bind_iff.mp h with ⟨err, rfl, h₁⟩ | ⟨σ, agid, τ₂, rfl, h₁, h₂⟩
  · exact .inl ⟨err, rfl, h₁⟩
  · obtain ⟨u, h₃, rfl⟩ := run_lift_iff.mp h₂
    obtain ⟨τ₃, o, τ₄, rfl, h₄, h₅⟩ := run_bind_iff.mp h₃
    obtain ⟨rfl, rfl⟩ := run_pure_iff.mp h₅
    obtain ⟨disc, rfl, hdisc⟩ := run_readDiscKey h₄
    exact .inr ⟨σ, disc, agid, by simp, h₁, hdisc, rfl⟩

def IsProfileProbe (e : Event Scsi) : Prop :=
  e.1 = .execute getConfigurationCdb .fromDevice (List.replicate 8 0) 5000

theorem not_opening_of_isProfileProbe {e : Event Scsi} (h : IsProfileProbe e) :
    grantedAgid e = none ∧ ¬ IsCleanup e := by
  obtain ⟨o, r⟩ := e
  cases (h : o = _)
  exact ⟨grantedAgid_execute (by decide) r, id⟩

/-- What a successful unlock of a DVD captured: nothing, as descrambling needs no key. -/
def dvdUnlocked : Unlocked := ⟨none, none⟩

theorem run_unlock {r : Except UnlockError (Option Unlocked)} (h : Run unlock.run τ r) :
    ∃ (o : Outcome 8) (τ' : List (Event Scsi)),
      τ = ⟨.execute getConfigurationCdb .fromDevice (List.replicate 8 0) 5000, o⟩ :: τ' ∧
      ((∃ err, profileReply o = .error err ∧ τ' = [] ∧ r = .error err) ∨
        (profileReply o = .ok false ∧ τ' = [] ∧ r = .ok none) ∨
        (profileReply o = .ok true ∧ ∃ s, Run unlockCssReads.run τ' s ∧
          r = fallthrough ((s.mapError Error.toUnlockError).map fun _ => dvdUnlocked))) := by
  rcases run_fallible_bind_iff.mp h with ⟨err, rfl, h₁⟩ | ⟨τ₁, dvd, τ₂, rfl, h₁, h₂⟩
  · obtain ⟨o, rfl, ho⟩ := run_ask_result_iff.mp h₁
    exact ⟨o, [], rfl, .inl ⟨err, ho.symm, rfl, rfl⟩⟩
  · obtain ⟨o, rfl, ho⟩ := run_ask_result_iff.mp h₁
    refine ⟨o, τ₂, rfl, .inr ?_⟩
    cases dvd with
    | false =>
      obtain ⟨rfl, rfl⟩ := run_fallible_pure_iff.mp h₂
      exact .inl ⟨ho.symm, rfl, rfl⟩
    | true =>
      obtain ⟨τ₃, s, τ₄, rfl, h₃, h₄⟩ := run_bind_iff.mp h₂
      obtain ⟨rfl, rfl⟩ := run_pure_iff.mp h₄
      obtain ⟨s', h₅, rfl⟩ := run_mapErr_iff.mp h₃
      exact .inr ⟨ho.symm, s', by simpa using h₅, rfl⟩

theorem fallthrough_error_ne {err : Error} :
    fallthrough ((Except.mapError Error.toUnlockError (.error err : Except Error Unit)).map
      fun _ => dvdUnlocked) ≠ .ok (some dvdUnlocked) := by
  unfold Except.mapError Error.toUnlockError
  dsimp only [Except.map]
  split_ifs <;> nofun

/-- Two grants of one trace are the same when nothing else in it grants. -/
theorem grant_unique {pre post front rest : List (Event Scsi)} {e e' : Event Scsi}
    {a : UInt8} (h : pre ++ e :: post = front ++ e' :: rest) (he : grantedAgid e = some a)
    (hfront : ∀ x ∈ front, grantedAgid x = none)
    (hrest : ∀ x ∈ rest, grantedAgid x = none) : pre = front ∧ e = e' ∧ post = rest := by
  rcases split_cases h with hsame | ⟨mid, -, rfl⟩ | ⟨mid, rfl, -⟩
  · exact hsame
  · rw [hrest e (by simp)] at he
    cases he
  · rw [hfront e (by simp)] at he
    cases he

/-- What comes after a grant: the session and its release when the authentication fails, the
session and the disc-key read under the held AGID when it succeeds. -/
def SessionEnd (agid : UInt8) (post : List (Event Scsi))
    (r : Except UnlockError (Option Unlocked)) : Prop :=
  (r ≠ .ok (some dvdUnlocked) ∧ ∃ body rel, post = body ++ [rel] ∧
      (∀ e ∈ body, InSession agid e) ∧ Releases agid rel) ∨
    (r = .ok (some dvdUnlocked) ∧ ∃ body disc, post = body ++ [disc] ∧
      (∀ e ∈ body, InSession agid e) ∧ ReadsDiscKey agid disc ∧ InSession agid disc)

theorem SessionEnd.ungranted {agid : UInt8} {post : List (Event Scsi)}
    {r : Except UnlockError (Option Unlocked)} (h : SessionEnd agid post r) :
    ∀ e ∈ post, grantedAgid e = none := by
  intro e he
  rcases h with ⟨-, body, rel, rfl, hbody, hrel⟩ | ⟨-, body, disc, rfl, hbody, -, hdisc⟩
  all_goals rcases List.mem_append.mp he with he | he
  · exact grantedAgid_of_inSession (hbody e he)
  · exact List.mem_singleton.mp he ▸ grantedAgid_of_isCleanup (isCleanup_of_releases hrel)
  · exact grantedAgid_of_inSession (hbody e he)
  · exact List.mem_singleton.mp he ▸ grantedAgid_of_inSession hdisc

/-- A run either opens nothing or has one grant, whose session ends as it must. -/
theorem unlock_sessions {r : Except UnlockError (Option Unlocked)} (h : Run unlock.run τ r) :
    (∀ e ∈ τ, grantedAgid e = none ∧ ¬ IsCleanup e) ∨
      ∃ front alloc rest agid, τ = front ++ alloc :: rest ∧
        (∀ e ∈ front, grantedAgid e = none ∧ ¬ IsCleanup e) ∧ ¬ IsCleanup alloc ∧
        grantedAgid alloc = some agid ∧ SessionEnd agid rest r := by
  obtain ⟨o, τ', rfl, hcases⟩ := run_unlock h
  have hprobe := not_opening_of_isProfileProbe
    (e := ⟨.execute getConfigurationCdb .fromDevice (List.replicate 8 0) 5000, o⟩) rfl
  rcases hcases with ⟨err, -, rfl, rfl⟩ | ⟨-, rfl, rfl⟩ | ⟨-, s, hs, rfl⟩
  · exact .inl (by simpa using hprobe)
  · exact .inl (by simpa using hprobe)
  have front : ∀ sweep : List (Event Scsi), (∀ e ∈ sweep, IsSweep e) →
      ∀ e ∈ ⟨.execute getConfigurationCdb .fromDevice (List.replicate 8 0) 5000, o⟩ :: sweep,
        grantedAgid e = none ∧ ¬ IsCleanup e := by
    intro sweep hsweep e he
    rcases List.mem_cons.mp he with rfl | he
    · exact hprobe
    · exact not_opening_of_isSweep (hsweep e he)
  rcases run_unlockCssReads hs with ⟨err, rfl, hest⟩ | ⟨σ, disc, agid, rfl, hest, hdisc, rfl⟩
  · obtain ⟨sweep, alloc, rest, rfl, hsweep, hclean, hend⟩ :=
      run_establishAuthenticatedSession hest
    rcases hend with ⟨hnone, rfl, -⟩ | ⟨agid, hgrant, -, body, hbody, hend⟩
    · refine .inl fun e he => ?_
      rcases List.mem_append.mp (List.cons_append ▸ he) with he | he
      · exact front sweep hsweep e he
      · exact List.mem_singleton.mp he ▸ ⟨hnone, hclean⟩
    · rcases hend with ⟨_, rel, -, rfl, hrel⟩ | ⟨hr, -⟩
      · exact .inr ⟨_, alloc, _, agid, rfl, front sweep hsweep, hclean, hgrant,
          .inl ⟨fallthrough_error_ne, body, rel, rfl, hbody, hrel⟩⟩
      · cases hr
  · obtain ⟨sweep, alloc, rest, rfl, hsweep, hclean, hend⟩ :=
      run_establishAuthenticatedSession hest
    rcases hend with ⟨-, -, err, hr⟩ | ⟨agid', hgrant, hlt, body, hbody, hend⟩
    · cases hr
    · rcases hend with ⟨_, _, hr, -⟩ | ⟨hr, rfl⟩
      · cases hr
      · obtain rfl := Except.ok.inj hr
        have hin : InSession agid disc := by
          obtain ⟨od, rd⟩ := disc
          cases (hdisc : od = _)
          exact inSession_discKeyCdb hlt rd
        exact .inr ⟨_, alloc, _, agid, by simp, front sweep hsweep, hclean, hgrant,
          .inr ⟨rfl, rest, disc, rfl, hbody, hdisc, hin⟩⟩

/-- Without a grant nothing is released; a granted AGID is released once, at the end, when the
authentication fails, and is held by the last command, the disc-key read, when it succeeds. -/
theorem unlock_agidLedger {r : Except UnlockError (Option Unlocked)} (h : Run unlock.run τ r) :
    ((∀ e ∈ τ, grantedAgid e = none) → ∀ e ∈ τ, ¬ IsCleanup e) ∧
    ∀ pre alloc post agid, τ = pre ++ alloc :: post → grantedAgid alloc = some agid →
      (∀ e ∈ pre, ¬ IsCleanup e) ∧ ¬ IsCleanup alloc ∧ SessionEnd agid post r := by
  rcases unlock_sessions h with
    hnone | ⟨front, alloc, rest, agid, rfl, hfront, hclean, hgrant, hend⟩
  · refine ⟨fun _ e he => (hnone e he).2, fun pre alloc post agid hτ hgrant => ?_⟩
    rw [(hnone alloc (by simp [hτ])).1] at hgrant
    cases hgrant
  · refine ⟨fun hall => ?_, fun pre alloc' post agid' hτ hgrant' => ?_⟩
    · rw [hall alloc (by simp)] at hgrant
      cases hgrant
    · obtain ⟨rfl, rfl, rfl⟩ := grant_unique hτ.symm hgrant' (fun e he => (hfront e he).1)
        hend.ungranted
      obtain rfl := Option.some.inj (hgrant.symm.trans hgrant')
      exact ⟨fun e he => (hfront e he).2, hclean, hend⟩

end Session

/-- A DVD drive that grants an AGID and refuses every other key command. -/
def refusingDvd : Handler Scsi Unit
  | .execute cdb _ data _, s =>
    let granted := cdb.headD 0 = scsiGetConfiguration ∨ IsReportKey cdb 0x00
    (⟨.ok ⟨if granted then 0 else 2, data.length, Vector.replicate 32 0⟩,
      Vector.ofFn fun i => if cdb.headD 0 = scsiGetConfiguration ∧ i.val = 6 then 0x00 else
        if i.val = 7 then (if cdb.headD 0 = scsiGetConfiguration then 0x10 else 0x80) else 0⟩, s)
  | .executeCleanup _ _ data _, s =>
    (⟨.ok ⟨0, data.length, Vector.replicate 32 0⟩, Vector.replicate data.length 0⟩, s)
  | .pause _, s => (.ok (), s)
  | .beginCritical, s => (.ok (), s)
  | .endCritical, s => ((), s)
  | .now, s => ((0 : ℕ), s)
  | .fillBytes n, s => (Vector.replicate n 0, s)
  | .diagnosticMemory _ _ _, s => (.error .other, s)
  | .quietDrive, s => (.failed none, s)

theorem unlock_agidLedger_refused :
    ∃ τ r, Run unlock.run τ r ∧ ∃ alloc ∈ τ, ∃ agid rest, grantedAgid alloc = some agid ∧
      SessionEnd agid rest r := by
  have hex : (exec refusingDvd unlock.run ()).any
      (fun x => x.2.1.any fun e => (grantedAgid e).isSome) = true := by decide +kernel
  obtain ⟨r, τ, _, hrun, hany⟩ := exists_run_of_any hex
  obtain ⟨alloc, (hmem : alloc ∈ τ), hsome⟩ := List.any_eq_true.mp hany
  obtain ⟨agid, hgrant⟩ := Option.isSome_iff_exists.mp hsome
  obtain ⟨pre, post, hsplit⟩ := List.append_of_mem hmem
  exact ⟨τ, r, hrun, alloc, hmem, agid, post, hgrant,
    ((unlock_agidLedger hrun).2 pre alloc post agid hsplit hgrant).2.2⟩

end FreemkvUnlock.Css
