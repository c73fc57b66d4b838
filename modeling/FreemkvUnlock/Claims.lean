import FreemkvUnlock.Ld.Lookup

/-! # Which unlocker claims a drive

A drive of the catalog belongs to the unlocker that owns its section. Without a live loader no
drive is claimed twice, and the catalog's drives are exactly the claimed ones.
-/

namespace FreemkvUnlock

/-- The MT1959 sections are this unlocker's. -/
def Ld.claimsIn (catalog : Ld.Profiles) (id : DriveId) : Bool :=
  (Ld.findByDriveId catalog id).any fun m => m.platform = .mt1959A ∨ m.platform = .mt1959B

/-- The Renesas section is this unlocker's, and what its live loader recognises. -/
def Freemkv.claimsIn (mediatekLoader : Option (DriveId → Bool)) (catalog : Option Ld.Profiles)
    (id : DriveId) : Bool :=
  ((catalog.bind fun c => Ld.findByDriveId c id).any fun m => m.platform = .renesas) ||
    mediatekLoader.any fun isMediatek => isMediatek id

namespace Ld

variable {catalog : Profiles} {id : DriveId}

theorem not_claimed_twice :
    ¬ (claimsIn catalog id = true ∧ Freemkv.claimsIn none (some catalog) id = true) := by
  rw [claimsIn, Freemkv.claimsIn, Option.bind_some]
  cases findByDriveId catalog id with
  | none => simp
  | some m => cases h : m.platform <;> simp [h]

theorem claimed_iff :
    (claimsIn catalog id = true ∨ Freemkv.claimsIn none (some catalog) id = true) ↔
      (findByDriveId catalog id).isSome = true := by
  rw [claimsIn, Freemkv.claimsIn, Option.bind_some]
  cases findByDriveId catalog id with
  | none => simp
  | some m => cases h : m.platform <;> simp [h]

/-- The lookup meets its specification, and the claims of both unlockers follow it. -/
theorem findByDriveId_spec (profiles : Profiles) (id : DriveId) :
    (∀ m, findByDriveId profiles id = some m ↔ Binds profiles id m) ∧
    (∀ m, findByDriveId profiles id = some m → fourField id m = true) ∧
    (∀ profiles' id', PaddedId id id' → PaddedProfiles profiles profiles' →
      Option.Rel PaddedMatch (findByDriveId profiles id) (findByDriveId profiles' id')) ∧
    (trim id.productId ≠ [] → (profiles.all.filter (fiveField id)).length ≤ 1 →
      ∀ profiles', Reordered profiles profiles' →
        findByDriveId profiles' id = findByDriveId profiles id) ∧
    ¬ (claimsIn profiles id = true ∧ Freemkv.claimsIn none (some profiles) id = true) ∧
    ((claimsIn profiles id = true ∨ Freemkv.claimsIn none (some profiles) id = true) ↔
      (findByDriveId profiles id).isSome = true) :=
  ⟨fun _ => findByDriveId_eq_some_iff, fun _ h => (findByDriveId_eq_some_iff.mp h).fourField,
    fun _ _ => findByDriveId_padded, fun hid hexact _ => findByDriveId_reordered hid hexact,
    not_claimed_twice, claimed_iff⟩

end Ld

end FreemkvUnlock
