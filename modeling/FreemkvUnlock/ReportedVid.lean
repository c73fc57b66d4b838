import FreemkvUnlock.Aacs.ArmRoute
import FreemkvUnlock.Freemkv.Outcome
import FreemkvUnlock.Freemkv.Unlock
import FreemkvUnlock.Ld.Calibration

/-! # Reported Volume IDs

Where a Volume ID that an unlocker reports without a bus key comes from: a reply of the drive that
delivers all its bytes. The bare read passes no unavailable value on; the vendor's read takes any
sixteen bytes under the right header.
-/

namespace FreemkvUnlock

open Interaction Fallible

/-- All zero or all ones, as a drive answers that has no Volume ID. -/
def Unavailable (vid : Vector UInt8 16) : Prop := (∀ b ∈ vid, b = 0) ∨ ∀ b ∈ vid, b = 0xFF

theorem unavailable_iff {vid : Vector UInt8 16} :
    Unavailable vid ↔ (vid.all (· == 0) || vid.all (· == 0xFF)) = true := by
  rw [Bool.or_eq_true, Vector.all_eq_true_iff_forall_mem, Vector.all_eq_true_iff_forall_mem]
  simp only [beq_iff_eq, Unavailable]

def vidEvent (cdb : List UInt8) (o : Outcome vidStructLen) : Event Scsi :=
  ⟨.execute cdb .fromDevice (List.replicate vidStructLen 0) 5000, o⟩

def Delivers (cmd : List UInt8 → Prop) (e : Event Scsi) (vid : Vector UInt8 16) : Prop :=
  ∃ cdb o r, cmd cdb ∧ e = vidEvent cdb o ∧ o.result = .ok r ∧ r.status = 0 ∧
    20 ≤ r.bytesTransferred ∧ vid = o.data.extract 4 20

/-- A reported Volume ID was delivered by a read of the run and is available. -/
def ReportsReal (cmd : List UInt8 → Prop) (τ : List (Event Scsi))
    (r : Except UnlockError (Option Unlocked)) : Prop :=
  ∀ u vid, r = .ok (some u) → u.vid = some vid → (∃ e ∈ τ, Delivers cmd e vid) ∧ ¬ Unavailable vid

section ReportsReal

variable {cmd : List UInt8 → Prop} {τ : List (Event Scsi)}
  {r : Except UnlockError (Option Unlocked)}

theorem reportsReal_of_error {e : UnlockError} : ReportsReal cmd τ (.error e) := nofun

theorem reportsReal_none : ReportsReal cmd τ (.ok none) := nofun

theorem ReportsReal.within (h : ReportsReal cmd τ r) (pre post : List (Event Scsi)) :
    ReportsReal cmd (pre ++ τ ++ post) r := by
  intro u vid hr hu
  obtain ⟨⟨e, he, hd⟩, hv⟩ := h u vid hr hu
  exact ⟨⟨e, List.mem_append_left _ (List.mem_append_right _ he), hd⟩, hv⟩

theorem reportsReal_fallthrough {r : Except UnlockError Unlocked}
    (h : ∀ u, r = .ok u → ReportsReal cmd τ (.ok (some u))) :
    ReportsReal cmd τ (fallthrough r) := by
  rcases r with e | u
  · cases e <;> nofun
  · exact h u rfl

end ReportsReal

/-! ## The bare read -/

theorem vidReply_eq_some {o : Outcome vidStructLen} {vid : Vector UInt8 16}
    (h : vidReply o = .ok (some vid)) : ∃ r, o.result = .ok r ∧ r.status = 0 ∧
      20 ≤ r.bytesTransferred ∧ vid = o.data.extract 4 20 ∧ ¬ Unavailable vid := by
  unfold vidReply at h
  rcases hr : o.result with e | r <;> rw [hr] at h <;> dsimp only at h
  · split_ifs at h
    all_goals cases h
  · by_cases hstatus : r.status = 0
    · rw [if_neg (not_not.mpr hstatus)] at h
      split_ifs at h with hlen huniform
      · cases h
      · cases h
      · obtain rfl := Option.some.inj (Except.ok.inj h)
        exact ⟨r, rfl, hstatus, Nat.le_of_not_lt hlen, rfl, fun hvid =>
          huniform (unavailable_iff.mp hvid)⟩
    · rw [if_pos hstatus] at h
      cases h

theorem run_readAacsVid {τ : List (Event Scsi)} {vid : Vector UInt8 16}
    (h : Run readAacsVid.run τ (.ok (some vid))) :
    (∃ e, τ = [e] ∧ Delivers (· = buildVidCdb) e vid) ∧ ¬ Unavailable vid := by
  obtain ⟨o, rfl, ho⟩ := run_ask_result_iff.mp h
  obtain ⟨r, hr, hstatus, hlen, hvid, havailable⟩ := vidReply_eq_some ho.symm
  exact ⟨⟨_, rfl, buildVidCdb, o, r, rfl, rfl, hr, hstatus, hlen, hvid⟩, havailable⟩

theorem reportsReal_readAacsVid {τ : List (Event Scsi)} {vid : Option (Vector UInt8 16)}
    {key : Option (Vector UInt8 16)} (h : Run readAacsVid.run τ (.ok vid)) :
    ReportsReal (· = buildVidCdb) τ (.ok (some ⟨vid, key⟩)) := by
  rintro u v ⟨⟩ hv
  obtain rfl : vid = some v := hv
  obtain ⟨⟨e, rfl, hd⟩, hv⟩ := run_readAacsVid h
  exact ⟨⟨e, List.mem_singleton_self e, hd⟩, hv⟩

/-! ## The freemkv unlocker -/

namespace Freemkv

variable {σ : Type} {B : Backend σ} {s : σ} {installed : Bool} {τ : List (Event Scsi)}
  {u : Unlocked}

/-- A successful part of the sequence contains a successful activation, and the result is the
activation's. -/
def Activates (B : Backend σ) (τ : List (Event Scsi)) (u : Unlocked) : Prop :=
  ∃ s pre mid post, τ = pre ++ mid ++ post ∧ Run (activateBackend B s).run mid (.ok u)

theorem Activates.within (h : Activates B τ u) (pre post : List (Event Scsi)) :
    Activates B (pre ++ τ ++ post) u := by
  obtain ⟨s, pre', mid, post', rfl, hrun⟩ := h
  exact ⟨s, pre ++ pre', mid, post' ++ post, by simp, hrun⟩

theorem activates_attempt {s' : σ} (h : Run (attempt B s installed) τ (.ok u, s')) :
    Activates B τ u := by
  obtain ⟨τ₁, ⟨r, t⟩, τ₂, rfl, -, h₂⟩ := run_bind_iff.mp h
  rcases r with e | _
  · cases (run_pure_iff.mp h₂).2
  obtain ⟨τ₃, r, τ₄, rfl, h₃, h₄⟩ := run_bind_iff.mp h₂
  obtain ⟨rfl, hr⟩ := run_pure_iff.mp h₄
  obtain ⟨rfl, rfl⟩ := Prod.mk.inj hr
  obtain ⟨τ₅, _, τ₆, rfl, -, h₆⟩ := run_fallible_bind_ok_iff.mp h₃
  exact ⟨_, τ₁ ++ τ₅, τ₆, [], by simp, h₆⟩

theorem activates_transaction (h : Run (transaction B s installed) τ (.ok (.ok u))) :
    Activates B τ u := by
  obtain ⟨τ₁, ⟨r, t⟩, τ₂, rfl, h₁, h₂⟩ := run_bind_iff.mp h
  obtain ⟨τ₃, finished, τ₄, rfl, -, h₄⟩ := run_bind_iff.mp h₂
  obtain ⟨rfl, hr⟩ := run_pure_iff.mp h₄
  rcases finished with e | _
  · cases hr
  obtain rfl : Except.ok u = r := Except.ok.inj hr
  exact (activates_attempt h₁).within [] _

theorem activates_unlockBackend (h : Run (unlockBackend B s installed).run τ (.ok u)) :
    Activates B τ u := by
  obtain ⟨τ₁, finished, τ₂, rfl, h₁, h₂⟩ := run_fallible_bind_ok_iff.mp h
  obtain ⟨τ₃, r, τ₄, rfl, h₃, h₄⟩ := run_fallible_bind_ok_iff.mp h₂
  obtain ⟨rfl, hr⟩ := run_result_iff.mp h₃
  obtain ⟨τ₅, _, τ₆, rfl, -, h₆⟩ := run_fallible_bind_ok_iff.mp h₄
  have hu : Except.ok u = r := by
    dsimp only at h₆
    split_ifs at h₆
    · obtain ⟨τ₇, _, τ₈, -, -, h₈⟩ := run_fallible_bind_ok_iff.mp h₆
      exact (run_result_iff.mp h₈).2
    · exact (run_result_iff.mp h₆).2
  rcases run_criticalSpan h₁ with ⟨e, -, he⟩ | ⟨τ', a, rfl, hbody, ha⟩
  · cases he
  obtain rfl := Except.ok.inj ha
  subst hr hu
  simpa using (activates_transaction hbody).within [⟨.beginCritical, .ok ()⟩] _

theorem activates_loadMediatek {loader : LiveLoader}
    (h : Run (FreemkvUnlocker.loadMediatek loader).run τ (.ok u)) :
    ∃ c, Activates (preinstalled c) τ u := by
  obtain ⟨τ₁, r, τ₂, rfl, h₁, h₂⟩ := run_fallible_bind_ok_iff.mp h
  obtain ⟨τ₃, _, τ₄, rfl, -, h₄⟩ := run_fallible_bind_ok_iff.mp h₂
  obtain ⟨rfl, rfl⟩ := run_result_iff.mp h₄
  rcases run_criticalSpan h₁ with ⟨e, -, he⟩ | ⟨τ', a, rfl, hbody, ha⟩
  · cases he
  obtain rfl := Except.ok.inj ha
  obtain ⟨τ₅, _, τ₆, rfl, -, h₆⟩ := run_fallible_bind_ok_iff.mp hbody
  obtain ⟨τ₇, _, τ₈, rfl, -, h₈⟩ := run_fallible_bind_ok_iff.mp h₆
  obtain ⟨τ₉, id, τ₁₀, rfl, -, h₁₀⟩ := run_fallible_bind_ok_iff.mp h₈
  obtain ⟨τ₁₁, _, τ₁₂, rfl, -, h₁₂⟩ := run_fallible_bind_ok_iff.mp h₁₀
  refine ⟨id.capabilities, (), ⟨.beginCritical, .ok ()⟩ :: (τ₅ ++ τ₇ ++ τ₉ ++ τ₁₁), τ₁₂,
    [⟨.endCritical, ()⟩] ++ τ₃, by simp, h₁₂⟩

theorem reportsReal_activates (hB : B.getVid = readAacsVid) (h : Activates B τ u) :
    ReportsReal (· = buildVidCdb) τ (.ok (some u)) := by
  obtain ⟨s, pre, mid, post, rfl, hrun⟩ := h
  obtain ⟨τ₁, _, τ₂, rfl, -, h₂⟩ := run_fallible_bind_ok_iff.mp hrun
  obtain ⟨τ₃, _, τ₄, rfl, -, h₄⟩ := run_fallible_bind_ok_iff.mp h₂
  obtain ⟨τ₅, vid, τ₆, rfl, h₅, h₆⟩ := run_fallible_bind_ok_iff.mp h₄
  obtain ⟨rfl, hu⟩ := run_fallible_pure_iff.mp h₆
  obtain rfl := Except.ok.inj hu
  rw [hB] at h₅
  simpa using (reportsReal_readAacsVid h₅).within (pre ++ τ₁ ++ τ₃) post

theorem reportsReal_runSelected {U : FreemkvUnlocker} {selection : Selection}
    (h : Run (U.runSelected selection).run τ (.ok u)) :
    ReportsReal (· = buildVidCdb) τ (.ok (some u)) := by
  cases selection with
  | mediatek loader =>
    obtain ⟨c, hact⟩ := activates_loadMediatek h
    exact reportsReal_activates rfl hact
  | preinstalled c =>
    obtain ⟨τ₁, _, τ₂, rfl, -, h₂⟩ := run_fallible_bind_ok_iff.mp h
    simpa using (reportsReal_activates rfl (activates_unlockBackend h₂)).within τ₁ []
  | renesas installed =>
    obtain ⟨τ₁, _, τ₂, rfl, -, h₂⟩ := run_fallible_bind_ok_iff.mp h
    simpa using (reportsReal_activates rfl (activates_unlockBackend h₂)).within τ₁ []

theorem FreemkvUnlocker.reportsReal_unlock {U : FreemkvUnlocker} {id : DriveId}
    {r : Except UnlockError (Option Unlocked)} (h : Run (U.unlock id).run τ r) :
    ReportsReal (· = buildVidCdb) τ r := by
  obtain ⟨r, hrun, rfl⟩ := run_map_iff.mp h
  refine reportsReal_fallthrough fun u hu => ?_
  subst hu
  obtain ⟨τ₁, selection, τ₂, rfl, -, h₂⟩ := run_fallible_bind_ok_iff.mp hrun
  simpa using (reportsReal_runSelected h₂).within τ₁ []

end Freemkv

/-! ## The host-certificate unlocker -/

/-- After an arming that turned encryption off. -/
theorem Aacs.AacsUnlocker.reportsReal_armed {U : Aacs.AacsUnlocker} {c : Aacs.Crypto} {fuel : ℕ}
    {ctx : UnlockCtx} {τ₁ τ₂ : List (Event Scsi)} {r : Except UnlockError (Option Unlocked)}
    (harmed : Run U.maybeArm.run τ₁ (.ok true)) (h : Run (U.unlock c fuel ctx).run (τ₁ ++ τ₂) r) :
    ReportsReal (· = buildVidCdb) τ₂ r := by
  by_cases hkind : ctx.kind = .aacs
  · rw [unlock_eq hkind, ExceptT.run_bind, run_append_iff harmed] at h
    rcases r with e | x
    · exact reportsReal_of_error
    obtain ⟨τ₃, vid, τ₄, rfl, h₃, h₄⟩ := run_fallible_bind_ok_iff.mp h
    obtain ⟨rfl, hx⟩ := run_fallible_pure_iff.mp h₄
    obtain rfl := Except.ok.inj hx
    simpa using reportsReal_readAacsVid h₃
  · unfold unlock at h
    rw [if_pos hkind] at h
    rw [(run_fallible_pure_iff.mp h).2]
    exact reportsReal_none

/-! ## The firmware unlocker -/

namespace Ld

def OemVidCommand (catalog : Option Profiles) (id : DriveId) (cdb : List UInt8) : Prop :=
  ∃ profiles m c, catalog = some profiles ∧ findByDriveId profiles id = some m ∧
    m.profile.readVidCdb = some c ∧ cdb = c.toList

/-- A reply that the vendor's read takes for a Volume ID although it has none. -/
def Placeholder (cmd : List UInt8 → Prop) (e : Event Scsi) : Prop :=
  ∃ cdb o r, cmd cdb ∧ e = vidEvent cdb o ∧ o.result = .ok r ∧ r.status = 0 ∧
    vidStructLen ≤ r.bytesTransferred ∧ o.data.toList.take 3 = oemVidHeader ∧
    Unavailable (o.data.extract 4 20)

section Events

variable {e : Event Scsi}

theorem isVidRead_of_delivers {catalog : Option Profiles} {id : DriveId} {vid : Vector UInt8 16}
    (h : Delivers (OemVidCommand catalog id) e vid) : IsVidRead e := by
  obtain ⟨_, o, r, ⟨profiles, m, c, -, -, -, rfl⟩, rfl, -⟩ := h
  exact ⟨Vector.length_toList, rfl, List.length_replicate⟩

theorem isVidRead_of_placeholder {catalog : Option Profiles} {id : DriveId}
    (h : Placeholder (OemVidCommand catalog id) e) : IsVidRead e := by
  obtain ⟨_, o, r, ⟨profiles, m, c, -, -, -, rfl⟩, rfl, -⟩ := h
  exact ⟨Vector.length_toList, rfl, List.length_replicate⟩

theorem not_isVidRead_of_call {o : Op} (h : e.1 = o)
    (ho : ∀ cdb dir data t, o ≠ .execute cdb dir data t) : ¬ IsVidRead e := by
  obtain ⟨o', r⟩ := e
  obtain rfl : o' = o := h
  cases o' with
  | execute cdb dir data t => exact absurd rfl (ho cdb dir data t)
  | _ => exact id

theorem not_isVidRead_of_isUnlockRead (h : IsUnlockRead e) : ¬ IsVidRead e :=
  fun hv => not_isUnlockRead_of_isVidRead hv h

theorem not_isVidRead_of_readCall (h : ReadCall e) : ¬ IsVidRead e := by
  rcases h with h | h | h
  · exact not_isVidRead_of_isUnlockRead h
  · exact not_isVidRead_of_call h nofun
  · exact not_isVidRead_of_call h nofun

theorem not_isVidRead_of_initCall (h : InitCall e) : ¬ IsVidRead e := by
  rcases h with h | (h | h | h | h) | (h | h | h | h | h) | h
  · exact not_isVidRead_of_readCall h
  · obtain ⟨o, r⟩ := e
    cases (h : o = _)
    exact fun hv => nomatch hv.2.1
  · obtain ⟨o, r⟩ := e
    cases (h : o = _)
    exact fun hv => nomatch hv.2.1
  · exact not_isVidRead_of_call h nofun
  · exact not_isVidRead_of_call h nofun
  · exact not_isVidRead_of_call h nofun
  · exact not_isVidRead_of_call h nofun
  · obtain ⟨o, r⟩ := e
    cases o with
    | execute cdb dir data t => exact fun hv => nomatch (h : dir = .toDevice).symm.trans hv.2.1
    | _ => exact h.elim
  · obtain ⟨o, r⟩ := e
    cases o with
    | execute cdb dir data t =>
      rintro ⟨-, rfl, hlen⟩
      rcases h with ⟨-, ⟨-, h⟩ | ⟨-, h⟩⟩ | ⟨h, -⟩
      · exact absurd (hlen.symm.trans h) (by decide)
      · exact absurd (hlen.symm.trans h) (by decide)
      · cases h
    | _ => exact h.elim
  · exact not_isVidRead_of_isUnlockRead h
  · exact not_isVidRead_of_call h nofun

end Events

section Unlock

variable {mt mt' : Mt1959} {fuel : ℕ} {catalog : Option Profiles} {id : DriveId}
  {τ : List (Event Scsi)}

theorem issues_calibrated (hid : mt.bufferId ≠ verifyBufferId) :
    Issues (fun e => ¬ IsVidRead e) ((calibrated fuel).prog mt) := by
  intro τ x h
  obtain ⟨τ₁, r₁, t, τ₂, rfl, h₁, h₂⟩ := Stateful.run_attempt_bind_iff.mp h
  refine List.forall_mem_append.mpr ⟨?_, ?_⟩
  · rcases run_probeDisc h₁ with ⟨rfl, -⟩ | ⟨hcal, -⟩
    · nofun
    · exact fun e he hv => not_isCalibration_of_isVidRead hv (issues_calibrate hid hcal e he)
  · rcases r₁ with e | _ <;> dsimp only at h₂
    · split_ifs at h₂
      · exact issues_reconfirmAfterFault
          (fun _ => not_isVidRead_of_call (o := .pause faultSettleMs) rfl nofun)
          (fun _ => not_isVidRead_of_readCall) h₂
      · rw [(Stateful.run_pure_iff.mp h₂).1]
        nofun
    · rw [(Stateful.run_pure_iff.mp h₂).1]
      nofun

theorem run_readOemVid_reply {profile : DriveProfile} {rv : Except Error (Option (Vector UInt8 16))}
    (h : Run (readOemVid profile).run τ rv) :
    (τ = [] ∧ rv = .ok none) ∨ ∃ c o, profile.readVidCdb = some c ∧ τ = [vidEvent c.toList o] ∧
      rv = (o.result.mapError Error.ofScsiError).map fun r => oemVidReply r o.data := by
  unfold readOemVid at h
  rcases hcdb : profile.readVidCdb with _ | c <;> rw [hcdb] at h
  · exact .inl (run_fallible_pure_iff.mp h)
  · right
    rcases run_fallible_bind_iff.mp h with ⟨e, rfl, h₁⟩ | ⟨τ₁, a, τ₂, rfl, h₁, h₂⟩
    · obtain ⟨o, rfl, ho⟩ := run_issue_iff.mp h₁
      refine ⟨c, o, rfl, rfl, ?_⟩
      rcases hr : o.result with e' | r <;> rw [hr] at ho
      · exact congrArg _ (Except.error.inj ho)
      · cases ho
    · obtain ⟨o, rfl, ho⟩ := run_issue_iff.mp h₁
      obtain ⟨rfl, rfl⟩ := run_fallible_pure_iff.mp h₂
      refine ⟨c, o, rfl, rfl, ?_⟩
      rcases hr : o.result with e' | r <;> rw [hr] at ho
      · cases ho
      · obtain rfl := Except.ok.inj ho
        rfl

/-- The vendor's read reports a real Volume ID unless a placeholder comes in its place. -/
theorem reportsReal_readOemVid_iff {profile : DriveProfile}
    {rv : Except Error (Option (Vector UInt8 16))}
    (hcmd : ∀ c, profile.readVidCdb = some c → OemVidCommand catalog id c.toList)
    (h : Run (readOemVid profile).run τ rv) :
    ReportsReal (OemVidCommand catalog id) τ
      (fallthrough ((rv.mapError Error.toUnlockError).map fun vid => ⟨vid, none⟩)) ↔
    ∀ e ∈ τ, ¬ Placeholder (OemVidCommand catalog id) e := by
  rcases run_readOemVid_reply h with ⟨rfl, rfl⟩ | ⟨c, o, hc, rfl, rfl⟩
  · exact iff_of_true (by rintro u vid ⟨⟩ ⟨⟩) nofun
  rw [List.forall_mem_singleton]
  rcases hr : o.result with e | r
  · refine iff_of_true (reportsReal_fallthrough nofun) ?_
    rintro ⟨cdb, o', r', -, heq, ho', -⟩
    cases heq
    cases hr.symm.trans ho'
  by_cases haccepted : r.status = 0 ∧ oemVidLen ≤ r.bytesTransferred ∧
      o.data.toList.take 3 = oemVidHeader
  · have hreply : oemVidReply r o.data = some (o.data.extract 4 20) := if_pos haccepted
    obtain ⟨hstatus, hlen, hheader⟩ := haccepted
    constructor
    · rintro hreal ⟨cdb, o', r', -, heq, -, -, -, -, hvid⟩
      cases heq
      exact (hreal _ _ rfl hreply).2 hvid
    · rintro hno u vid ⟨⟩ hvid
      obtain rfl : o.data.extract 4 20 = vid := Option.some.inj (hreply.symm.trans hvid)
      exact ⟨⟨_, List.mem_singleton_self _, c.toList, o, r, hcmd c hc, rfl, hr, hstatus,
        Nat.le_trans (by decide) hlen, rfl⟩, fun hun => hno ⟨c.toList, o, r, hcmd c hc, rfl, hr,
          hstatus, hlen, hheader, hun⟩⟩
  · have hreply : oemVidReply r o.data = none := if_neg haccepted
    refine iff_of_true ?_ ?_
    · rintro u vid ⟨⟩ hvid
      cases hreply.symm.trans hvid
    · rintro ⟨cdb, o', r', -, heq, ho', hstatus, hlen, hheader, -⟩
      cases heq
      obtain rfl := Except.ok.inj (hr.symm.trans ho')
      exact haccepted ⟨hstatus, hlen, hheader⟩

/-- The firmware unlocker reports real Volume IDs in exactly the runs without a placeholder. -/
theorem reportsReal_unlock_iff {ctx : UnlockCtx} {r : Except UnlockError (Option Unlocked)}
    (h : Run (unlock catalog fuel ctx).run τ r) :
    ReportsReal (OemVidCommand catalog ctx.driveId) τ r ↔
      ∀ e ∈ τ, ¬ Placeholder (OemVidCommand catalog ctx.driveId) e := by
  have hnone {e : UnlockError} (hτ : ∀ e ∈ τ, ¬ IsVidRead e) (hr : r = fallthrough (.error e)) :
      ReportsReal (OemVidCommand catalog ctx.driveId) τ r ↔
        ∀ e ∈ τ, ¬ Placeholder (OemVidCommand catalog ctx.driveId) e :=
    iff_of_true (hr ▸ reportsReal_fallthrough nofun)
      fun e he hp => hτ e he (isVidRead_of_placeholder hp)
  rcases run_unlock h with ⟨rfl, rfl⟩ |
    ⟨profiles, m, mt, mt', r', rfl, hm, hprofile, hinit, hid, hrun, rfl⟩
  · exact hnone (e := .notApplicable) nofun rfl
  rcases run_firmwareUnlockWith_parts hrun with ⟨⟨e, rfl⟩, _, _, hinitrun⟩ |
    ⟨τ₁, t, τ₂, r₂, t₂, τ₃, rfl, h₁, -, h₂, hend⟩
  · exact hnone (fun e he => not_isVidRead_of_initCall (issues_init hinitrun e he)) rfl
  have htarget : t.target = mt.target := (run_init_ok hinit h₁).1
  have hid' : t.bufferId ≠ verifyBufferId := by
    rwa [show t.bufferId = mt.bufferId from congrArg (·.2.2) htarget]
  have hbefore : ∀ e ∈ τ₁ ++ τ₂, ¬ IsVidRead e := List.forall_mem_append.mpr
    ⟨fun e he => not_isVidRead_of_initCall (issues_init h₁ e he), issues_calibrated hid' h₂⟩
  rcases hend with ⟨e, -, rfl, rfl⟩ | ⟨-, rv, hvid, rfl⟩
  · exact hnone (by simpa using hbefore) rfl
  have hcmd (c) (hc : t.profile.readVidCdb = some c) :
      OemVidCommand (some profiles) ctx.driveId c.toList :=
    ⟨profiles, m, c, rfl, hm, by rw [← hc, profile_of_target htarget, hprofile], rfl⟩
  have hclean : ∀ e ∈ τ₁ ++ τ₂, ¬ Placeholder (OemVidCommand (some profiles) ctx.driveId) e :=
    fun e he hp => hbefore e he (isVidRead_of_placeholder hp)
  have hlast := reportsReal_readOemVid_iff hcmd hvid
  rw [List.forall_mem_append, and_iff_right hclean, ← hlast]
  constructor
  · intro hreal u vid hr hu
    obtain ⟨⟨e, he, hd⟩, hv⟩ := hreal u vid hr hu
    have hmem : e ∈ τ₃ :=
      (List.mem_append.mp he).resolve_left fun he => hbefore e he (isVidRead_of_delivers hd)
    exact ⟨⟨e, hmem, hd⟩, hv⟩
  · intro hreal
    simpa using hreal.within (τ₁ ++ τ₂) []

end Unlock

end Ld

namespace Ld

def vidProfile : DriveProfile :=
  { sampleProfile with readVidCdb := some #v[0xAD, 0, 0, 0, 0, 0, 0, 0x80, 36, 0] }

/-- An unlocked drive that answers the Volume ID read with the header and then one byte. -/
def vidDrive (b : UInt8) : Handler Scsi Bool
  | .execute cdb dir data t, loaded =>
    if data.length = vidStructLen then
      (⟨.ok ⟨0, data.length, Vector.replicate 32 0⟩,
        Vector.ofFn fun i => (oemVidHeader ++ List.replicate 33 b).getD i 0⟩, loaded)
    else uploadedDrive (.execute cdb dir data t) loaded
  | o, loaded => uploadedDrive o loaded

end Ld

/-! ## All unlockers -/

/-- The bare read reports real Volume IDs only; the vendor's read does so in exactly the runs in
which the drive does not answer it with an unavailable value. -/
theorem reportsReal_of_run (τ : List (Event Scsi)) (r : Except UnlockError (Option Unlocked)) :
    (∀ (U : Freemkv.FreemkvUnlocker) id, Run (U.unlock id).run τ r →
      ReportsReal (· = buildVidCdb) τ r) ∧
    (∀ (U : Aacs.AacsUnlocker) c fuel ctx τ₁, Run U.maybeArm.run τ₁ (.ok true) →
      Run (U.unlock c fuel ctx).run (τ₁ ++ τ) r → ReportsReal (· = buildVidCdb) τ r) ∧
    ∀ catalog fuel ctx, Run (Ld.unlock catalog fuel ctx).run τ r →
      (ReportsReal (Ld.OemVidCommand catalog ctx.driveId) τ r ↔
        ∀ e ∈ τ, ¬ Ld.Placeholder (Ld.OemVidCommand catalog ctx.driveId) e) :=
  ⟨fun _ _ h => Freemkv.FreemkvUnlocker.reportsReal_unlock h, fun _ _ _ _ _ harmed h =>
    Aacs.AacsUnlocker.reportsReal_armed harmed h, fun _ _ _ h => Ld.reportsReal_unlock_iff h⟩

theorem reportsReal_of_run_sample :
    (∃ τ u vid, Run (Freemkv.bareUnlocker.unlock Freemkv.blankDrive).run τ (.ok (some u)) ∧
      u.vid = some vid ∧ ∃ e ∈ τ, Delivers (· = buildVidCdb) e vid) ∧
    Delivers (· = buildVidCdb) Aacs.AacsUnlocker.oneVid (Vector.replicate 16 1) ∧
    ∃ τ, Run (Ld.unlock (some ⟨[Ld.vidProfile], [], []⟩) 1 Ld.sampleCtx).run τ
        (.ok (some ⟨some (Vector.replicate 16 1), none⟩)) ∧
      (ReportsReal (Ld.OemVidCommand (some ⟨[Ld.vidProfile], [], []⟩) Ld.sampleCtx.driveId) τ
          (.ok (some ⟨some (Vector.replicate 16 1), none⟩)) ↔
        ∀ e ∈ τ, ¬ Ld.Placeholder
          (Ld.OemVidCommand (some ⟨[Ld.vidProfile], [], []⟩) Ld.sampleCtx.driveId) e) := by
  refine ⟨?_, ?_, ?_⟩
  · have hex : (exec (Freemkv.repliesWith (Freemkv.banner 0x39) 0)
        (Freemkv.bareUnlocker.unlock Freemkv.blankDrive).run ()).any
        (fun x => (x.1.toOption.join.bind Unlocked.vid).isSome) = true := by decide +kernel
    obtain ⟨r, τ, _, hrun, hr⟩ := exists_run_of_any hex
    rcases r with e | _ | u
    · cases hr
    · cases hr
    obtain ⟨vid, hvid⟩ := Option.isSome_iff_exists.mp hr
    exact ⟨τ, u, vid, hrun, hvid, ((reportsReal_of_run τ _).1 _ _ hrun u vid rfl hvid).1⟩
  · obtain ⟨acks, harm, hrun⟩ := Aacs.AacsUnlocker.run_bypassing .unused
    have harmed : Run Aacs.AacsUnlocker.bypassing.maybeArm.run acks (.ok true) :=
      run_map_iff.mpr ⟨_, harm, rfl⟩
    obtain ⟨⟨e, he, hd⟩, -⟩ := (reportsReal_of_run _ _).2.1 _ _ _ _ _ harmed hrun _ _ rfl rfl
    exact List.mem_singleton.mp he ▸ hd
  · have hex : (exec (Ld.vidDrive 1)
        (Ld.unlock (some ⟨[Ld.vidProfile], [], []⟩) 1 Ld.sampleCtx).run true).any
        (fun x => x.1.toOption == some (some ⟨some (Vector.replicate 16 1), none⟩)) = true := by
      decide +kernel
    obtain ⟨r, τ, _, hrun, hr⟩ := exists_run_of_any hex
    rcases r with e | u
    · cases hr
    obtain rfl := Option.some.inj (beq_iff_eq.mp hr)
    exact ⟨τ, hrun, (reportsReal_of_run τ _).2.2 _ _ _ hrun⟩

namespace Ld

/-- The firmware unlocker reports the zeros as the disc's Volume ID. -/
theorem unlock_not_reportsReal_zero : ∃ τ r,
    Run (unlock (some ⟨[vidProfile], [], []⟩) 1 sampleCtx).run τ r ∧
      ¬ ReportsReal (OemVidCommand (some ⟨[vidProfile], [], []⟩) sampleCtx.driveId) τ r := by
  have hex : (exec (vidDrive 0) (unlock (some ⟨[vidProfile], [], []⟩) 1 sampleCtx).run true).any
      (fun x => x.1.toOption == some (some ⟨some (Vector.replicate 16 0), none⟩)) = true := by
    decide +kernel
  obtain ⟨r, τ, _, hrun, hr⟩ := exists_run_of_any hex
  refine ⟨τ, r, hrun, fun hreal => ?_⟩
  rcases r with e | u
  · cases hr
  · obtain rfl := Option.some.inj (beq_iff_eq.mp hr)
    exact (hreal _ _ rfl rfl).2 (.inl fun _ hb => Vector.eq_of_mem_replicate hb)

end Ld

end FreemkvUnlock
