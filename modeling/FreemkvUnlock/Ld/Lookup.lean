import FreemkvUnlock.Ld.Profile
import Mathlib.Data.List.Forall2
import Mathlib.Data.List.TakeWhile
import Mathlib.Data.Option.Defs
import Mathlib.Tactic.Common

/-! # What the lookup binds

An exact entry is bound before any other, and an entry that agrees on four fields only when the
drive reports no product id or no other entry agrees. Blanks around a field never matter, nor
does the order of a section when the exact entry is unique.
-/

namespace FreemkvUnlock.Ld

open List

def fiveField (id : DriveId) (m : ProfileMatch) : Bool :=
  fourField id m && trim m.profile.identity.productId = trim id.productId

def First (q : ProfileMatch → Bool) (ms : List ProfileMatch) (m : ProfileMatch) : Prop :=
  q m = true ∧ ∃ before after, ms = before ++ m :: after ∧ ∀ x ∈ before, !q x

inductive Binds (profiles : Profiles) (id : DriveId) (m : ProfileMatch) : Prop
  | exact (hid : trim id.productId ≠ []) (h : First (fiveField id) profiles.all m)
  | unnamed (hid : trim id.productId = []) (h : First (fourField id) profiles.all m)
  | only (hid : trim id.productId ≠ []) (hexact : ∀ x ∈ profiles.all, ¬ fiveField id x = true)
      (honly : (profiles.all.filter (fourField id)).length = 1)
      (h : First (fourField id) profiles.all m)

variable {profiles profiles' : Profiles} {id id' : DriveId} {m : ProfileMatch}
  {q : ProfileMatch → Bool} {ms : List ProfileMatch}

/-! ## The entry that is bound -/

theorem find?_eq_some_iff_first : ms.find? q = some m ↔ First q ms m :=
  List.find?_eq_some_iff_append

theorem find?_eq_none_iff_not : ms.find? q = none ↔ ∀ x ∈ ms, ¬ q x = true :=
  List.find?_eq_none

/-- The lookup by cases: an exact entry, else the entries that agree on four fields. -/
theorem findByDriveId_eq : findByDriveId profiles id =
    if trim id.productId = [] then profiles.all.find? (fourField id)
    else (profiles.all.find? (fiveField id)).or
      (if (profiles.all.filter (fourField id)).length = 1 then profiles.all.find? (fourField id)
        else none) := by
  have hfour : findFourField profiles id =
      if (profiles.all.filter (fourField id)).length = 1 ∨ trim id.productId = [] then
        profiles.all.find? (fourField id) else none := by
    rw [findFourField, ← List.head?_filter]
    rcases profiles.all.filter (fourField id) with _ | ⟨m, _ | ⟨m', others⟩⟩ <;> simp
  by_cases hid : trim id.productId = []
  · simp [findByDriveId, hfour, hid]
  · simp only [findByDriveId, hfour, hid, ne_eq, not_false_eq_true, or_false, if_true, if_false]
    change (profiles.all.find? (fiveField id)).orElse _ = _
    cases profiles.all.find? (fiveField id) <;> rfl

theorem findByDriveId_eq_some_iff : findByDriveId profiles id = some m ↔ Binds profiles id m := by
  rw [findByDriveId_eq]
  constructor
  · intro h
    split_ifs at h with hid honly
    · exact .unnamed hid (find?_eq_some_iff_first.mp h)
    · rcases Option.or_eq_some_iff.mp h with h | ⟨hnone, h⟩
      · exact .exact hid (find?_eq_some_iff_first.mp h)
      · exact .only hid (find?_eq_none_iff_not.mp hnone) honly (find?_eq_some_iff_first.mp h)
    · rw [Option.or_none] at h
      exact .exact hid (find?_eq_some_iff_first.mp h)
  · rintro (⟨hid, h⟩ | ⟨hid, h⟩ | ⟨hid, hexact, honly, h⟩)
    · rw [if_neg hid, find?_eq_some_iff_first.mpr h, Option.some_or]
    · rw [if_pos hid, find?_eq_some_iff_first.mpr h]
    · rw [if_neg hid, if_pos honly, find?_eq_none_iff_not.mpr hexact, Option.none_or,
        find?_eq_some_iff_first.mpr h]

theorem Binds.fourField (h : Binds profiles id m) : fourField id m = true := by
  cases h with
  | exact _ h => exact (Bool.and_eq_true_iff.mp h.1).1
  | unnamed _ h => exact h.1
  | only _ _ _ h => exact h.1

/-! ## Blanks -/

/-- `t` is `s` with blanks around it. -/
def Padded (s t : String) : Prop :=
  ∃ l r : List Char, t.toList = l ++ s.toList ++ r ∧
    (∀ c ∈ l, isWhitespace c = true) ∧ ∀ c ∈ r, isWhitespace c = true

theorem dropWhile_append_right {p : Char → Bool} {cs r : List Char} (hr : ∀ c ∈ r, p c = true) :
    ((cs ++ r).dropWhile p).reverse.dropWhile p = (cs.dropWhile p).reverse.dropWhile p := by
  rw [List.dropWhile_append]
  split_ifs with h
  · rw [List.dropWhile_eq_nil_iff.mpr hr, List.isEmpty_iff.mp h]
  · rw [List.reverse_append, List.dropWhile_append_of_pos fun c hc => hr c (List.mem_reverse.mp hc)]

theorem trim_padded {s t : String} (h : Padded s t) : trim t = trim s := by
  obtain ⟨l, r, ht, hl, hr⟩ := h
  rw [trim, trim, ht, List.append_assoc, List.dropWhile_append_of_pos hl,
    dropWhile_append_right hr]

structure PaddedId (id id' : DriveId) : Prop where
  vendorId : Padded id.vendorId id'.vendorId
  productId : Padded id.productId id'.productId
  productRevision : Padded id.productRevision id'.productRevision
  vendorSpecific : Padded id.vendorSpecific id'.vendorSpecific
  firmwareDate : Padded id.firmwareDate id'.firmwareDate

structure PaddedProfile (p p' : DriveProfile) : Prop where
  vendorId : Padded p.identity.vendorId p'.identity.vendorId
  productId : Padded p.identity.productId p'.identity.productId
  productRevision : Padded p.identity.productRevision p'.identity.productRevision
  vendorSpecific : Padded p.identity.vendorSpecific p'.identity.vendorSpecific
  firmwareDate : Padded p.identity.firmwareDate p'.identity.firmwareDate
  rest : p' = { p with identity := p'.identity }

def PaddedMatch (m m' : ProfileMatch) : Prop :=
  PaddedProfile m.profile m'.profile ∧ m'.platform = m.platform

structure PaddedProfiles (profiles profiles' : Profiles) : Prop where
  mt1959A : Forall₂ PaddedProfile profiles.mt1959A profiles'.mt1959A
  mt1959B : Forall₂ PaddedProfile profiles.mt1959B profiles'.mt1959B
  renesas : Forall₂ PaddedProfile profiles.renesas profiles'.renesas

theorem PaddedProfiles.all (h : PaddedProfiles profiles profiles') :
    Forall₂ PaddedMatch profiles.all profiles'.all := by
  have hmap (platform : Platform) {ps ps' : List DriveProfile} (h : Forall₂ PaddedProfile ps ps') :
      Forall₂ PaddedMatch (ps.map (⟨·, platform⟩)) (ps'.map (⟨·, platform⟩)) :=
    forall₂_map_left_iff.mpr (forall₂_map_right_iff.mpr (h.imp fun _ _ hp => ⟨hp, rfl⟩))
  exact rel_append (rel_append (hmap _ h.mt1959A) (hmap _ h.mt1959B)) (hmap _ h.renesas)

theorem fourField_padded {m' : ProfileMatch} (hid : PaddedId id id') (hm : PaddedMatch m m') :
    fourField id' m' = fourField id m := by
  simp only [fourField, trim_padded hid.vendorId, trim_padded hid.productRevision,
    trim_padded hid.vendorSpecific, trim_padded hid.firmwareDate, trim_padded hm.1.vendorId,
    trim_padded hm.1.productRevision, trim_padded hm.1.vendorSpecific,
    trim_padded hm.1.firmwareDate]

theorem fiveField_padded {m' : ProfileMatch} (hid : PaddedId id id') (hm : PaddedMatch m m') :
    fiveField id' m' = fiveField id m := by
  simp only [fiveField, fourField_padded hid hm, trim_padded hid.productId,
    trim_padded hm.1.productId]

theorem find?_rel {R : ProfileMatch → ProfileMatch → Prop} {q q' : ProfileMatch → Bool}
    {ms ms' : List ProfileMatch} (hq : ∀ m m', R m m' → q' m' = q m) (h : Forall₂ R ms ms') :
    Option.Rel R (ms.find? q) (ms'.find? q') := by
  induction h with
  | nil => exact .none
  | @cons m m' ms ms' hm _ ih =>
    rw [List.find?_cons, List.find?_cons, hq m m' hm]
    cases q m with
    | false => exact ih
    | true => exact .some hm

theorem rel_or {R : ProfileMatch → ProfileMatch → Prop} {x x' y y' : Option ProfileMatch}
    (hx : Option.Rel R x x') (hy : Option.Rel R y y') : Option.Rel R (x.or y) (x'.or y') := by
  cases hx with
  | none => exact hy
  | some hm => exact .some hm

theorem findByDriveId_padded (hid : PaddedId id id') (hp : PaddedProfiles profiles profiles') :
    Option.Rel PaddedMatch (findByDriveId profiles id) (findByDriveId profiles' id') := by
  have hfour := find?_rel (fun m m' (hm : PaddedMatch m m') => fourField_padded hid hm) hp.all
  have hfive := find?_rel (fun m m' (hm : PaddedMatch m m') => fiveField_padded hid hm) hp.all
  have hlength : (profiles'.all.filter (fourField id')).length =
      (profiles.all.filter (fourField id)).length := by
    refine (rel_filter (fun m m' hm => ?_) hp.all).length_eq.symm
    exact iff_of_eq (congrArg (· = true) (fourField_padded hid hm).symm)
  rw [findByDriveId_eq, findByDriveId_eq, trim_padded hid.productId, hlength]
  split_ifs
  · exact hfour
  · exact rel_or hfive hfour
  · exact rel_or hfive .none

/-! ## Order -/

structure Reordered (profiles profiles' : Profiles) : Prop where
  mt1959A : profiles'.mt1959A.Perm profiles.mt1959A
  mt1959B : profiles'.mt1959B.Perm profiles.mt1959B
  renesas : profiles'.renesas.Perm profiles.renesas

theorem Reordered.all (h : Reordered profiles profiles') : profiles'.all.Perm profiles.all :=
  ((h.mt1959A.map _).append (h.mt1959B.map _)).append (h.renesas.map _)

theorem find?_perm {ms' : List ProfileMatch} (h : ms'.Perm ms) (hq : (ms.filter q).length ≤ 1) :
    ms'.find? q = ms.find? q := by
  have hp := h.filter q
  rw [← List.head?_filter, ← List.head?_filter]
  rcases hf : ms.filter q with _ | ⟨m, _ | ⟨m', others⟩⟩
  · rw [hf] at hp
    rw [hp.eq_nil]
  · rw [hf] at hp
    rw [hp.eq_singleton]
  · simp [hf] at hq

theorem findByDriveId_reordered (hid : trim id.productId ≠ [])
    (hexact : (profiles.all.filter (fiveField id)).length ≤ 1) (h : Reordered profiles profiles') :
    findByDriveId profiles' id = findByDriveId profiles id := by
  have hlength : (profiles'.all.filter (fourField id)).length =
      (profiles.all.filter (fourField id)).length := (h.all.filter _).length_eq
  rw [findByDriveId_eq, findByDriveId_eq, if_neg hid, if_neg hid, hlength,
    find?_perm h.all hexact]
  split_ifs with honly
  · rw [find?_perm h.all (Nat.le_of_eq honly)]
  · rfl

end FreemkvUnlock.Ld
