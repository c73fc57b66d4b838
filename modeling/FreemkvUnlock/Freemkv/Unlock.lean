import FreemkvUnlock.Renesas.Backend

/-! # Choosing a backend

The identity probe, the drive's identity and the platform probe choose the backend; a configured
loader for MediaTek drives is arbitrary code with its own critical span.
-/

namespace FreemkvUnlock.Freemkv

open Interaction Fallible Protocol

structure LiveLoader where
  isMediatek : DriveId → Bool
  load : Step Unit

structure FreemkvUnlocker where
  mediatekLoader : Option LiveLoader
  ldClaims : DriveId → Bool
  pioneer : Renesas.Pioneer

inductive Selection
  | preinstalled (capabilities : Capabilities)
  | mediatek (loader : LiveLoader)
  | renesas (installed : Bool)

namespace FreemkvUnlocker

variable (U : FreemkvUnlocker)

def selectBackend (driveId : DriveId) : Step Selection := do
  match ← probe with
  | some id =>
    if id.capabilities.implementation = .firmware then return .preinstalled id.capabilities
    else return .renesas true
  | none =>
    match U.mediatekLoader.filter (·.isMediatek driveId) with
    | some loader => return .mediatek loader
    | none =>
      -- A drive the LD unlocker claims never gets the Renesas probe.
      if U.ldClaims driveId then throw .notApplicable
      else if ← Renesas.isRenesas U.pioneer then return .renesas false
      else throw .notApplicable

/-- Load the live implementation and activate it, in one critical span. -/
def loadMediatek (loader : LiveLoader) : Step Unlocked := do
  let r ← criticalSpan (do
    loader.load
    let id ← probe
    let id ← result (okOr id .notApplicable)
    ensure (id.capabilities.implementation = .firmware) .notApplicable
    activateBackend (Freemkv.preinstalled id.capabilities) () : Step Unlocked).run
  checkpoint
  result r

def runSelected : Selection → Step Unlocked
  | .preinstalled c => do
    let B := Freemkv.preinstalled c
    let s ← B.prepare () true
    unlockBackend B s true
  | .mediatek loader => loadMediatek loader
  | .renesas installed => do
    let B := Renesas.backend U.pioneer
    let s ← B.prepare .new installed
    unlockBackend B s installed

def fullUnlockWithDrive (driveId : DriveId) : Step Unlocked := do
  let selection ← U.selectBackend driveId
  U.runSelected selection

def unlock (driveId : DriveId) : Step (Option Unlocked) :=
  ExceptT.mk (fallthrough <$> (U.fullUnlockWithDrive driveId).run)

end FreemkvUnlocker

end FreemkvUnlock.Freemkv
