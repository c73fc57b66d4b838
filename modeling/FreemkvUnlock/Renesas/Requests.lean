import FreemkvUnlock.Renesas.Lines

/-! # Requests to a placed hook

What a ten-byte command asks the activation hook for, and that the bytes the hook compares one
after the other decide it.
-/

namespace FreemkvUnlock.Renesas

open Protocol

inductive Request
  | oem
  | invalid
  | identity
  | acknowledge
  | transition
  deriving DecidableEq

def request (cdb : List UInt8) : Request :=
  if cdb.take 4 ≠ [0x3c, 0x0e, 0xc0, 0xde] then .oem
  else if cdb = buildIdentityCdb 64 then .identity
  else if ∃ feature ∈ [Feature.region, .unrestricted, .hrl],
    cdb = buildSetCdb feature (cdb.getD 6 0) then .acknowledge
  else if ∃ state ∈ [stateOn, statePassthrough, stateOff],
    cdb = buildSetCdb .encryption state then .transition
  else .invalid

/-! ## The bytes of a command -/

section Requests

def enterBytes : List (ℕ × UInt8) := [(0, 0x3c), (1, 0x0e), (2, 0xc0), (3, 0xde)]

def identityBytes : List (ℕ × UInt8) := Code.bytesFrom (buildIdentityCdb 64) fun i => 5 ≤ i

def setBytes : List (ℕ × UInt8) :=
  Code.bytesFrom (buildSetCdb .encryption stateOff) fun i => 4 ≤ i ∧ i ≠ 5 ∧ i ≠ 6

variable {c : ℕ → UInt8}

theorem command_identity (h : ∀ b ∈ enterBytes, c b.1 = b.2) :
    (List.range 10).map c = buildIdentityCdb 64 ↔
      c 4 = Verb.identity.code ∧ ∀ b ∈ identityBytes, c b.1 = b.2 := by
  have hcdb : buildIdentityCdb 64 = [0x3c, 0x0e, 0xc0, 0xde, 1, 0, 0, 0, 64, 0] := rfl
  have hbytes : identityBytes = [(5, 0), (6, 0), (7, 0), (8, 64), (9, 0)] := rfl
  simp only [enterBytes, List.forall_mem_cons] at h
  simp [hcdb, hbytes, List.range_succ, h, Verb.code]

theorem command_set (h : ∀ b ∈ enterBytes, c b.1 = b.2) (f : Feature) (v : UInt8) :
    (List.range 10).map c = buildSetCdb f v ↔
      (∀ b ∈ setBytes, c b.1 = b.2) ∧ c 5 = f.code ∧ c 6 = v := by
  have hcdb : buildSetCdb f v = [0x3c, 0x0e, 0xc0, 0xde, 2, f.code, v, 0, 64, 0] := rfl
  have hbytes : setBytes = [(4, 2), (7, 0), (8, 64), (9, 0)] := rfl
  simp only [enterBytes, List.forall_mem_cons] at h
  simp [hcdb, hbytes, List.range_succ, h]
  tauto

def acknowledged : List UInt8 := [Feature.region, .unrestricted, .hrl].map Feature.code

theorem command_acknowledge (h : ∀ b ∈ enterBytes, c b.1 = b.2) :
    (∃ feature ∈ [Feature.region, .unrestricted, .hrl],
      (List.range 10).map c = buildSetCdb feature (((List.range 10).map c).getD 6 0)) ↔
    (∀ b ∈ setBytes, c b.1 = b.2) ∧ c 5 ∈ acknowledged := by
  have hsix : ((List.range 10).map c).getD 6 0 = c 6 := rfl
  simp only [command_set h, hsix, acknowledged, List.mem_map]
  refine ⟨fun ⟨f, hf, hset, hc, _⟩ => ⟨hset, f, hf, hc.symm⟩, fun ⟨hset, f, hf, hc⟩ => ?_⟩
  exact ⟨f, hf, hset, hc.symm, trivial⟩

theorem command_transition (h : ∀ b ∈ enterBytes, c b.1 = b.2) :
    (∃ state ∈ [stateOn, statePassthrough, stateOff],
      (List.range 10).map c = buildSetCdb .encryption state) ↔
    (∀ b ∈ setBytes, c b.1 = b.2) ∧ c 5 = Feature.encryption.code ∧
      c 6 ∈ [stateOn, statePassthrough, stateOff] := by
  simp only [command_set h]
  refine ⟨fun ⟨v, hv, hset, hc, heq⟩ => ⟨hset, hc, heq ▸ hv⟩, fun ⟨hset, hc, hv⟩ => ?_⟩
  exact ⟨c 6, hv, hset, hc, rfl⟩

/-- The questions the hook asks, one after the other. -/
theorem request_map : request ((List.range 10).map c) =
    if ¬ ∀ b ∈ enterBytes, c b.1 = b.2 then Request.oem
    else if c 4 = Verb.identity.code then
      if ∀ b ∈ identityBytes, c b.1 = b.2 then .identity else .invalid
    else if ¬ ∀ b ∈ setBytes, c b.1 = b.2 then .invalid
    else if c 5 ∈ acknowledged then .acknowledge
    else if c 5 = Feature.encryption.code ∧ c 6 ∈ [stateOn, statePassthrough, stateOff] then
      .transition
    else .invalid := by
  have henter : ((List.range 10).map c).take 4 ≠ [0x3c, 0x0e, 0xc0, 0xde] ↔
      ¬ ∀ b ∈ enterBytes, c b.1 = b.2 := by
    simp [List.range_succ, enterBytes]
  rw [request, if_congr henter rfl rfl]
  by_cases h : ∀ b ∈ enterBytes, c b.1 = b.2
  · rw [if_neg (not_not.mpr h), if_neg (not_not.mpr h), if_congr (command_identity h) rfl rfl,
      if_congr (command_acknowledge h) rfl rfl, if_congr (command_transition h) rfl rfl]
    by_cases h₄ : c 4 = Verb.identity.code
    · have hset : ¬ ∀ b ∈ setBytes, c b.1 = b.2 := fun hset =>
        absurd (h₄.symm.trans (hset (4, 2) (by decide))) (by decide)
      rw [if_pos h₄, if_congr (and_iff_right h₄) rfl rfl, if_neg (not_and_of_not_left _ hset),
        if_neg (not_and_of_not_left _ hset)]
    · rw [if_neg h₄, if_neg (not_and_of_not_left _ h₄)]
      by_cases hset : ∀ b ∈ setBytes, c b.1 = b.2
      · rw [if_neg (not_not.mpr hset), if_congr (and_iff_right hset) rfl rfl,
          if_congr (and_iff_right hset) rfl rfl]
      · rw [if_pos hset, if_neg (not_and_of_not_left _ hset), if_neg (not_and_of_not_left _ hset)]
  · rw [if_pos h, if_pos h]

end Requests

end FreemkvUnlock.Renesas
