import FreemkvUnlock.Interaction.Halting
import FreemkvUnlock.Agid

/-! # Dead buses and refusals

The answers after which an unlocker must give up: a command that found the bus dead, a pause the
host refused because the operation was stopped, and a critical span it would not open.
-/

namespace FreemkvUnlock

open Interaction

def FoundDead {α : Type} (r : Except ScsiError α) : Prop := ∃ e, r = .error e ∧ isDeadBus e = true

def DeadBus (e : Event Scsi) : Prop :=
  match e with
  | ⟨.execute _ _ data _, o⟩ => FoundDead (o : Outcome data.length).result
  | _ => False

def PauseRefused (e : Event Scsi) : Prop :=
  match e with
  | ⟨.pause _, r⟩ => ∃ err, (r : Except ScsiError Unit) = .error err
  | _ => False

def CriticalRefused (e : Event Scsi) : Prop :=
  match e with
  | ⟨.beginCritical, r⟩ => ∃ err, (r : Except ScsiError Unit) = .error err
  | _ => False

/-- Answers that are a reason to give up: a command that found the bus dead, a refused pause, a
critical span that was not opened. -/
def GivesUp (e : Event Scsi) : Prop := DeadBus e ∨ PauseRefused e ∨ CriticalRefused e

/-- A call of any kind that failed with a dead bus. -/
def Faulty (e : Event Scsi) : Prop :=
  match e with
  | ⟨.execute _ _ data _, o⟩ => FoundDead (o : Outcome data.length).result
  | ⟨.pause _, r⟩ => FoundDead (r : Except ScsiError Unit)
  | ⟨.beginCritical, r⟩ => FoundDead (r : Except ScsiError Unit)
  | _ => False

theorem faulty_of_deadBus {e : Event Scsi} (h : DeadBus e) : Faulty e := by
  obtain ⟨o, r⟩ := e
  cases o with
  | execute => exact h
  | _ => exact h.elim

theorem givesUp_of_faulty {e : Event Scsi} (h : Faulty e) : GivesUp e := by
  obtain ⟨o, r⟩ := e
  cases o with
  | execute => exact .inl h
  | pause => exact .inr (.inl (h.imp fun _ => And.left))
  | beginCritical => exact .inr (.inr (h.imp fun _ => And.left))
  | _ => exact h.elim

def deadResult : Except ScsiError ScsiResult := .error ⟨scsiStatusTransportFailure, none⟩

def goneAt (opcode : UInt8) : Event Scsi → Bool
  | ⟨.execute cdb _ data _, o⟩ =>
    cdb.headD 0 == opcode && match (o : Outcome data.length).result with
      | .error e => isDeadBus e
      | .ok _ => false
  | _ => false

theorem deadBus_of_goneAt {opcode : UInt8} {e : Event Scsi} (h : goneAt opcode e = true) :
    DeadBus e := by
  obtain ⟨o, r⟩ := e
  cases o with
  | execute cdb dir data t =>
    simp only [goneAt, Bool.and_eq_true] at h
    rcases hr : (r : Outcome data.length).result with e | res
    · rw [hr] at h
      exact ⟨e, hr, h.2⟩
    · rw [hr] at h
      cases h.2
  | _ => cases h

theorem run_drop_cleanup {guard : AgidGuard} {τ : List (Event Scsi)} {u : Unit}
    (h : Run guard.drop τ u) : ∃ e, τ = [e] ∧ IsCleanup e := by
  obtain ⟨τ₁, o, τ₂, rfl, h₁, h₂⟩ := run_bind_iff.mp h
  obtain ⟨rfl, -⟩ := run_pure_iff.mp h₂
  rw [run_ask_iff.mp h₁]
  exact ⟨_, rfl, trivial⟩

theorem not_deadBus_of_isCleanup {e : Event Scsi} (h : IsCleanup e) : ¬ DeadBus e := by
  obtain ⟨o, r⟩ := e
  cases o with
  | executeCleanup => exact id
  | _ => exact h.elim

theorem not_pauseRefused_of_isCleanup {e : Event Scsi} (h : IsCleanup e) : ¬ PauseRefused e := by
  obtain ⟨o, r⟩ := e
  cases o with
  | executeCleanup => exact id
  | _ => exact h.elim

/-! ## Held sessions -/

/-- What may follow a fatal event: one clean-up command. -/
def ReleaseTail : List (Event Scsi) → Prop := AtMostOne IsCleanup

theorem releaseTail_of_noTail : ∀ τ : List (Event Scsi), NoTail τ → ReleaseTail τ := fun _ => .inl

theorem not_fatal_of_releaseTail {F : Event Scsi → Prop} (hF : ∀ e, IsCleanup e → ¬ F e) :
    ∀ τ, ReleaseTail τ → ∀ e ∈ τ, ¬ F e := by
  rintro τ (rfl | ⟨e, rfl, he⟩)
  · nofun
  · simpa using hF e he

/-- Holding an AGID adds its release to the tail of the steps under it. -/
theorem haltsOn_holding {F : Event Scsi → Prop} {ε α : Type} {p : ε → Prop} {guard : AgidGuard}
    {x : Fallible Scsi ε α} (hF : ∀ e, IsCleanup e → ¬ F e)
    (hx : HaltsOn F NoTail (Fails p) x.run) :
    HaltsOn F ReleaseTail (Fails p) (holding guard x).run := by
  refine hx.closing (not_fatal_of_releaseTail hF) fun r τ b h => ?_
  rcases r with e | a
  · obtain ⟨τ₁, _, τ₂, rfl, h₁, h₂⟩ := run_bind_iff.mp h
    obtain ⟨rfl, rfl⟩ := run_pure_iff.mp h₂
    exact ⟨Iff.rfl, .inr (by simpa using run_drop_cleanup h₁)⟩
  · obtain ⟨rfl, rfl⟩ := run_pure_iff.mp h
    exact ⟨Iff.rfl, .inl rfl⟩

end FreemkvUnlock
