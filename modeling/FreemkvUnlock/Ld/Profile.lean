import FreemkvUnlock.Unlocker

/-! # Drive profiles

The catalog of the drives the firmware unlocker knows, in three platform sections, and the
lookup that binds a drive identity to one entry. Fields are compared without surrounding blanks.
-/

namespace FreemkvUnlock.Ld

structure Identity where
  vendorId : String
  productId : String
  productRevision : String
  vendorSpecific : String
  firmwareDate : String
  deriving DecidableEq

/-- One catalog entry: the drive's signature, its runtime firmware and its vendor commands. -/
structure DriveProfile where
  identity : Identity
  signature : Vector UInt8 4
  firmware : List UInt8
  readVidCdb : Option (Vector UInt8 10)
  fwVerifyCdb : Option (Vector UInt8 10)

inductive Platform
  | mt1959A
  | mt1959B
  | renesas
  deriving DecidableEq, Repr

structure Profiles where
  mt1959A : List DriveProfile
  mt1959B : List DriveProfile
  renesas : List DriveProfile

structure ProfileMatch where
  profile : DriveProfile
  platform : Platform

/-! ## Lookup -/

def Profiles.all (profiles : Profiles) : List ProfileMatch :=
  profiles.mt1959A.map (⟨·, .mt1959A⟩) ++ profiles.mt1959B.map (⟨·, .mt1959B⟩) ++
    profiles.renesas.map (⟨·, .renesas⟩)

/-- Agreement on everything but the product id. -/
def fourField (id : DriveId) (m : ProfileMatch) : Bool :=
  trim m.profile.identity.vendorId = trim id.vendorId &&
    trim m.profile.identity.productRevision = trim id.productRevision &&
    trim m.profile.identity.vendorSpecific = trim id.vendorSpecific &&
    trim m.profile.identity.firmwareDate = trim id.firmwareDate

/-- Without an exact entry: the first of the entries that agree on four fields, when there is no
other or the drive reports no product id. -/
def findFourField (profiles : Profiles) (id : DriveId) : Option ProfileMatch :=
  match profiles.all.filter (fourField id) with
  | [] => none
  | m :: others => if others ≠ [] ∧ trim id.productId ≠ [] then none else some m

def findByDriveId (profiles : Profiles) (id : DriveId) : Option ProfileMatch :=
  let exact := if trim id.productId ≠ [] then
      profiles.all.find? fun m =>
        fourField id m && trim m.profile.identity.productId = trim id.productId
    else none
  exact.orElse fun _ => findFourField profiles id

end FreemkvUnlock.Ld
