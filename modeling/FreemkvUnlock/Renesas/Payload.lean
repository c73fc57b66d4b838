import FreemkvUnlock.Renesas.Encoding

/-! # The layout of the payload

An assembled payload is a row of named parts. Its relocations and its two table patches each lie
in one part and do not meet, so placing the payload fills in every address and changes nothing
else.
-/

namespace FreemkvUnlock.Renesas

open Bytes Interaction Fallible Protocol

inductive Part
  | code
  | callback
  | table
  | callbacks
  | data
  | identity
  | eligibility
  | vidCode
  | vidTable
  | vidData
  | policy
  deriving DecidableEq

def Part.order : List Part :=
  [.code, .callback, .table, .callbacks, .data, .identity, .eligibility, .vidCode, .vidTable,
    .vidData, .policy]

theorem Part.mem_order (s : Part) : s ∈ Part.order := by cases s <;> decide

/-- What a payload is put together from: generated code, the security table, and where the
placeholders stand in the code. -/
structure Pieces where
  code : List UInt8
  callback : List UInt8
  eligibility : List UInt8
  vidCode : List UInt8
  securityTable : List UInt8
  acquisitionAt : ℕ
  dataAt : ℕ
  identityAt : ℕ
  ownedPolicyAt : ℕ
  policyAt : ℕ
  vidDataAt : ℕ
  vidPolicyAt : ℕ

namespace Pieces

def part (q : Pieces) : Part → List UInt8
  | .code => q.code
  | .callback => q.callback
  | .table => zeros 40
  | .callbacks => zeros 70
  | .data => zeros 64
  | .identity => pioneerIdentity
  | .eligibility => q.eligibility
  | .vidCode => q.vidCode
  | .vidTable => zeros 40
  | .vidData => [0, 0x22, 0, 0] ++ zeros 32
  | .policy => q.securityTable

def start (q : Pieces) (s : Part) : ℕ := Bytes.start q.part Part.order s

def range (q : Pieces) (s : Part) : Range := partRange q.part Part.order s

def bytes (q : Pieces) : List UInt8 := Part.order.flatMap q.part

def relocations (q : Pieces) : List (Part × Relocation) :=
  [0x10, 0x1a, 0x24, 0x2e, 0x38, 0x42].map (fun offset =>
    (.callbacks, ⟨q.start .callbacks + offset, q.start .callback, false⟩)) ++
  [(.vidCode, ⟨q.start .vidCode + q.vidDataAt, q.start .vidData, false⟩),
    (.vidCode, ⟨q.start .vidCode + q.vidPolicyAt, q.start .policy, false⟩),
    (.policy, ⟨q.start .policy + 0x100, q.start .eligibility, false⟩),
    (.code, ⟨q.acquisitionAt, q.start .callbacks, false⟩),
    (.code, ⟨q.dataAt, q.start .data, true⟩),
    (.code, ⟨q.identityAt, q.start .identity, true⟩),
    (.code, ⟨q.ownedPolicyAt, q.start .policy, false⟩),
    (.code, ⟨q.policyAt, q.start .policy, false⟩)]

def trampoline (q : Pieces) : Trampoline where
  bytes := q.bytes
  alignment := 32
  wrapperOffset := 0
  tableOffset := q.start .table
  vidWrapperOffset := q.start .vidCode
  vidTableOffset := q.start .vidTable
  relocations := q.relocations.map Prod.snd

/-- A placeholder stands in the code at `offset` and nowhere after it. -/
def Once (H : H8) (code : List UInt8) (marker offset : ℕ) : Prop :=
  H.find code (.word marker) 0 = some offset ∧ H.find code (.word marker) (offset + 1) = none

structure Generated (P : Pioneer) (H : H8) (main helper invalid : ℕ) (sites : Sites)
    (q : Pieces) : Prop where
  code : ∃ reset, P.readU32 sites.reset.expected 0 = some reset ∧
    assembleItems H (activationHook H main helper invalid sites
      (fromBytesBe sites.acquisition.expected) reset) = .ok q.code
  callback : assembleItems H (acquisitionCallback H sites) = .ok q.callback
  eligibility : assembleItems H (eligibilityStub H) = .ok q.eligibility
  vidCode : vidWrapper H sites helper invalid = .ok q.vidCode
  securityTable : q.securityTable.length = sites.tableLength
  acquisitionAt : Once H q.code acquisitionMarker q.acquisitionAt
  dataAt : Once H q.code dataMarker q.dataAt
  identityAt : Once H q.code identityMarker q.identityAt
  ownedPolicyAt : Once H q.code ownedPolicyMarker q.ownedPolicyAt
  policyAt : Once H q.code policyMarker q.policyAt
  vidDataAt : H.find q.vidCode (.word vidDataMarker) 0 = some q.vidDataAt
  vidPolicyAt : H.find q.vidCode (.word vidPolicyMarker) 0 = some q.vidPolicyAt

theorem starts (q : Pieces) :
    q.start .callback = q.code.length ∧ q.start .table = q.start .callback + q.callback.length ∧
      q.start .callbacks = q.start .table + 40 ∧ q.start .data = q.start .callbacks + 70 ∧
      q.start .identity = q.start .data + 64 ∧ q.start .eligibility = q.start .identity + 64 ∧
      q.start .vidCode = q.start .eligibility + q.eligibility.length ∧
      q.start .vidTable = q.start .vidCode + q.vidCode.length ∧
      q.start .vidData = q.start .vidTable + 40 ∧ q.start .policy = q.start .vidData + 36 ∧
      q.bytes.length = q.start .policy + q.securityTable.length := by
  have hident : pioneerIdentity.length = 64 := rfl
  simp only [start, Bytes.start, Part.order, part, bytes, hident, reduceCtorEq, ↓reduceIte,
    List.flatMap_cons, List.flatMap_nil, List.length_append, List.length_cons, List.length_nil,
    length_zeros]
  omega

end Pieces

variable {P : Pioneer} {H : H8} {main helper invalid : ℕ} {sites : Sites}
  {securityTable : List UInt8} {t : Trampoline} {q : Pieces}

/-! ## Assembly -/

theorem length_assembleItems {items : List (Except Fault Item)} {bs : List UInt8}
    (h : assembleItems H items = .ok bs) : bs.length ≤ 10 * items.length := by
  obtain ⟨items', hitems, h⟩ := except_bind_eq_ok_iff.mp h
  rw [← length_mapM_eq_ok hitems]
  exact H.finish_length h

theorem length_activationHook_le (original reset : ℕ) :
    (activationHook H main helper invalid sites original reset).length ≤ 400 := by
  have h₁ : (enter H ++ requestGate H).length ≤ 60 := Nat.le_of_ble_eq_true rfl
  have h₂ : (waitReadIdle H sites).length ≤ 60 := Nat.le_of_ble_eq_true rfl
  have h₃ : (switchPolicy H sites original reset).length ≤ 60 := Nat.le_of_ble_eq_true rfl
  have h₄ : ( reinitialize H sites original).length ≤ 60 := Nat.le_of_ble_eq_true rfl
  have h₅ : (answer H helper invalid ++ oem H main).length ≤ 60 := Nat.le_of_ble_eq_true rfl
  simp only [activationHook, List.length_append] at *
  omega

theorem length_vidItems_le : (vidGate H sites ++ vidLength H ++ vidReply H sites helper ++
    vidExits H sites invalid).length ≤ 400 :=
  Nat.le_of_ble_eq_true rfl

theorem markerRelocation_ok {code : List UInt8} {marker addend : ℕ} {rel : Bool} {r : Relocation}
    (h : markerRelocation H code marker addend rel = .ok r) :
    ∃ i, Pieces.Once H code marker i ∧ r = ⟨i, addend % 2 ^ 32, rel⟩ := by
  obtain ⟨i, hi, h⟩ := except_bind_eq_ok_iff.mp h
  obtain ⟨_, honce, h⟩ := except_bind_eq_ok_iff.mp h
  exact ⟨i, ⟨okOr_eq_ok_iff.mp hi, check_eq_ok_iff.mp honce⟩, (Except.ok.inj h).symm⟩

/-- Generated code is small, so no offset wraps. -/
theorem Pieces.Generated.start_le (hq : q.Generated P H main helper invalid sites) (s : Part) :
    q.start s ≤ 2 ^ 16 := by
  obtain ⟨reset, -, hcode⟩ := hq.code
  have hcodeLen := (length_assembleItems hcode).trans
    (Nat.mul_le_mul_left 10 (length_activationHook_le _ reset))
  have hcallbackLen : q.callback.length ≤ 60 := length_assembleItems hq.callback
  have heligibilityLen : q.eligibility.length ≤ 20 := length_assembleItems hq.eligibility
  have hvidLen := (length_assembleItems hq.vidCode).trans
    (Nat.mul_le_mul_left 10 length_vidItems_le)
  have h₀ : q.start .code = 0 := rfl
  obtain ⟨h₁, h₂, h₃, h₄, h₅, h₆, h₇, h₈, h₉, h₁₀, -⟩ := q.starts
  cases s <;> omega

/-- What assembly succeeds with is the payload of generated pieces. -/
theorem assemble_ok (h : assemble P H main helper invalid sites securityTable = .ok t) :
    ∃ q : Pieces, q.Generated P H main helper invalid sites ∧ q.securityTable = securityTable ∧
      sites.acquisition.expected.length = 4 ∧ t = q.trampoline := by
  obtain ⟨_, hexpected, h⟩ := except_bind_eq_ok_iff.mp h
  obtain ⟨reset, hreset, h⟩ := except_bind_eq_ok_iff.mp h
  obtain ⟨code, hcode, h⟩ := except_bind_eq_ok_iff.mp h
  obtain ⟨callback, hcallback, h⟩ := except_bind_eq_ok_iff.mp h
  obtain ⟨eligibility, heligibility, h⟩ := except_bind_eq_ok_iff.mp h
  obtain ⟨vidCode, hvid, h⟩ := except_bind_eq_ok_iff.mp h
  obtain ⟨vidDataAt, hvidData, h⟩ := except_bind_eq_ok_iff.mp h
  obtain ⟨vidPolicyAt, hvidPolicy, h⟩ := except_bind_eq_ok_iff.mp h
  obtain ⟨_, hlen, h⟩ := except_bind_eq_ok_iff.mp h
  obtain ⟨markers, hmarkers, h⟩ := except_bind_eq_ok_iff.mp h
  simp only [mapM_cons_eq_ok_iff] at hmarkers
  obtain ⟨_, _, h₁, ⟨_, _, h₂, ⟨_, _, h₃, ⟨_, _, h₄, ⟨_, _, h₅, hnil, rfl⟩, rfl⟩, rfl⟩, rfl⟩,
    rfl⟩ := hmarkers
  obtain rfl := Except.ok.inj hnil
  obtain ⟨i₁, hi₁, rfl⟩ := markerRelocation_ok h₁
  obtain ⟨i₂, hi₂, rfl⟩ := markerRelocation_ok h₂
  obtain ⟨i₃, hi₃, rfl⟩ := markerRelocation_ok h₃
  obtain ⟨i₄, hi₄, rfl⟩ := markerRelocation_ok h₄
  obtain ⟨i₅, hi₅, rfl⟩ := markerRelocation_ok h₅
  let q : Pieces := ⟨code, callback, eligibility, vidCode, securityTable, i₁, i₂, i₃, i₄, i₅,
    vidDataAt, vidPolicyAt⟩
  have hq : q.Generated P H main helper invalid sites :=
    ⟨⟨reset, okOr_eq_ok_iff.mp hreset, hcode⟩, hcallback, heligibility, hvid,
      check_eq_ok_iff.mp hlen, hi₁, hi₂, hi₃, hi₄, hi₅, okOr_eq_ok_iff.mp hvidData,
      okOr_eq_ok_iff.mp hvidPolicy⟩
  refine ⟨q, hq, rfl, check_eq_ok_iff.mp hexpected, ?_⟩
  obtain rfl := Except.ok.inj h
  have hmod (s : Part) : q.start s % 2 ^ 32 = q.start s :=
    Nat.mod_eq_of_lt ((hq.start_le s).trans_lt (by norm_num))
  obtain ⟨h₁, h₂, h₃, h₄, h₅, h₆, h₇, h₈, h₉, h₁₀, -⟩ := q.starts
  have hident : pioneerIdentity.length = 64 := rfl
  have e₁ : code.length = q.start .callback := h₁.symm
  have e₂ : q.start .callback + callback.length = q.start .table := h₂.symm
  have e₇ : q.start .eligibility + eligibility.length = q.start .vidCode := h₇.symm
  have e₈ : q.start .vidCode + vidCode.length = q.start .vidTable := h₈.symm
  have e₁₀ : q.start .vidData + (0 + 1 + 1 + 1 + 1) + 32 = q.start .policy := h₁₀.symm
  simp only [List.length_append, length_zeros, hident, List.length_cons, List.length_nil, e₁, e₂,
    ← h₃, ← h₄, ← h₅, ← h₆, e₇, e₈, ← h₉, e₁₀, hmod, Pieces.trampoline, Trampoline.mk.injEq,
    true_and]
  refine ⟨?_, rfl⟩
  simp only [Pieces.bytes, Part.order, Pieces.part, List.flatMap_cons, List.flatMap_nil,
    List.append_assoc, List.append_nil, q]

/-! ## Patched ranges -/

def Relocation.range (r : Relocation) : Range := .sized r.offset 4

/-- Every range that placing the payload patches, with the part it lies in: the relocations and
the two callback tables. -/
def Pieces.patches (q : Pieces) : List (Part × Range) :=
  q.relocations.map (fun x => (x.1, x.2.range)) ++
    [(.table, .sized (q.start .table) 40), (.vidTable, .sized (q.start .vidTable) 40)]

theorem stands_of_find {bs : List UInt8} {value i : ℕ} (h : H.find bs (.word value) 0 = some i) :
    Stands bs i (u32ToBeBytes value) :=
  stands_iff_extract.mpr (H.find_word h)

theorem find_add_le {bs : List UInt8} {value i : ℕ} (h : H.find bs (.word value) 0 = some i) :
    i + 4 ≤ bs.length :=
  (stands_of_find h).le (List.cons_ne_nil _ _)

theorem find_disjoint {bs : List UInt8} {v w i j : ℕ} (hi : H.find bs (.word v) 0 = some i)
    (hj : H.find bs (.word w) 0 = some j) (hv : Apart (u32ToBeBytes v) (u32ToBeBytes w))
    (hw : Apart (u32ToBeBytes w) (u32ToBeBytes v)) :
    (Range.sized i 4).Disjoint (.sized j 4) :=
  (stands_of_find hi).disjoint (stands_of_find hj) hv hw

variable (hq : q.Generated P H main helper invalid sites)
include hq

theorem Pieces.Generated.patches_inside (hlen : 0x104 ≤ sites.tableLength) :
    ∀ x ∈ q.patches, (q.range x.1).Contains x.2 := by
  have h₀ : q.start .code = 0 := rfl
  have := find_add_le hq.acquisitionAt.1
  have := find_add_le hq.dataAt.1
  have := find_add_le hq.identityAt.1
  have := find_add_le hq.ownedPolicyAt.1
  have := find_add_le hq.policyAt.1
  have := find_add_le hq.vidDataAt
  have := find_add_le hq.vidPolicyAt
  have := hq.securityTable
  simp only [patches, relocations, List.map_cons, List.map_nil, List.cons_append, List.nil_append,
    List.forall_mem_cons, List.not_mem_nil, false_implies, implies_true, and_true,
    Relocation.range, Range.Contains, Range.start_sized, Range.stop_sized, range, partRange,
    ← start.eq_1 q, part,
    length_zeros, h₀]
  omega

/-- No two patches overlap. -/
theorem Pieces.Generated.patches_disjoint (hlen : 0x104 ≤ sites.tableLength) :
    q.patches.Pairwise fun x y => x.2.Disjoint y.2 := by
  have hsame : q.patches.Pairwise fun x y => x.1 = y.1 → x.2.Disjoint y.2 := by
    have hvid : (Range.sized (q.start .vidCode + q.vidDataAt) 4).Disjoint
        (.sized (q.start .vidCode + q.vidPolicyAt) 4) := by
      have := find_disjoint hq.vidDataAt hq.vidPolicyAt (by decide) (by decide)
      simp only [Range.Disjoint, Range.start_sized, Range.stop_sized] at this ⊢
      omega
    have h₁₂ := find_disjoint hq.acquisitionAt.1 hq.dataAt.1 (by decide) (by decide)
    have h₁₃ := find_disjoint hq.acquisitionAt.1 hq.identityAt.1 (by decide) (by decide)
    have h₁₄ := find_disjoint hq.acquisitionAt.1 hq.ownedPolicyAt.1 (by decide) (by decide)
    have h₁₅ := find_disjoint hq.acquisitionAt.1 hq.policyAt.1 (by decide) (by decide)
    have h₂₃ := find_disjoint hq.dataAt.1 hq.identityAt.1 (by decide) (by decide)
    have h₂₄ := find_disjoint hq.dataAt.1 hq.ownedPolicyAt.1 (by decide) (by decide)
    have h₂₅ := find_disjoint hq.dataAt.1 hq.policyAt.1 (by decide) (by decide)
    have h₃₄ := find_disjoint hq.identityAt.1 hq.ownedPolicyAt.1 (by decide) (by decide)
    have h₃₅ := find_disjoint hq.identityAt.1 hq.policyAt.1 (by decide) (by decide)
    have h₄₅ := find_disjoint hq.ownedPolicyAt.1 hq.policyAt.1 (by decide) (by decide)
    simp only [patches, relocations, List.map_cons, List.map_nil, List.cons_append,
      List.nil_append, List.pairwise_cons, List.forall_mem_cons, Relocation.range, hvid, h₁₂, h₁₃,
      h₁₄, h₁₅, h₂₃, h₂₄, h₂₅, h₃₄, h₃₅, h₄₅, reduceCtorEq, false_implies, true_implies,
      List.not_mem_nil, implies_true, List.Pairwise.nil, and_true]
    clear hvid h₁₂ h₁₃ h₁₄ h₁₅ h₂₃ h₂₄ h₂₅ h₃₄ h₃₅ h₄₅
    simp only [Range.Disjoint, Range.start_sized, Range.stop_sized]
    omega
  refine hsame.imp_of_mem fun {x y} hx hy h => ?_
  by_cases hxy : x.1 = y.1
  · exact h hxy
  · have hparts : (partRange q.part Part.order x.1).Disjoint (partRange q.part Part.order y.1) :=
      partRange_disjoint x.1.mem_order y.1.mem_order hxy
    exact ((hparts.mono (hq.patches_inside hlen x hx)).symm.mono
      (hq.patches_inside hlen y hy)).symm

omit hq

/-! ## Placement -/

theorem copyInto_ok {buffer bytes out : List UInt8} {offset : ℕ}
    (h : copyInto buffer offset bytes = .ok out) : out = patch buffer offset bytes := by
  obtain ⟨_, -, h⟩ := except_bind_eq_ok_iff.mp h
  exact (Except.ok.inj h).symm

def Relocation.value (space : FreeSpace) (r : Relocation) : ℕ :=
  (if r.controllerRelative then space.controllerOffset else space.cpu.start) + r.addend

def Trampoline.patches (t : Trampoline) (space : FreeSpace) (table vidTable : List UInt8) :
    List (ℕ × List UInt8) :=
  t.relocations.map (fun r => (r.offset, u32ToBeBytes (r.value space))) ++
    [(t.tableOffset, table), (t.vidTableOffset, vidTable)]

theorem relocateAll_ok {space : FreeSpace} {rs : List Relocation} {bs out : List UInt8}
    (h : rs.foldlM (relocate space) bs = .ok out) : (∀ r ∈ rs, r.value space < 2 ^ 32) ∧
      out = patchAll bs (rs.map fun r => (r.offset, u32ToBeBytes (r.value space))) := by
  induction rs generalizing bs with
  | nil =>
    obtain rfl := Except.ok.inj h
    exact ⟨List.forall_mem_nil _, rfl⟩
  | cons r rs ih =>
    rw [List.foldlM_cons] at h
    obtain ⟨bs', hr, h⟩ := except_bind_eq_ok_iff.mp h
    obtain ⟨_, hv, hr⟩ := except_bind_eq_ok_iff.mp hr
    obtain ⟨hvs, rfl⟩ := ih h
    exact ⟨List.forall_mem_cons.mpr ⟨check_eq_ok_iff.mp hv, hvs⟩, by rw [copyInto_ok hr]; rfl⟩

/-- A placement is the patches, all of whose addresses fit 32 bits. -/
theorem place_ok {space : FreeSpace} {table vidTable payload : List UInt8}
    (h : place space t table vidTable = .ok payload) :
    (∀ r ∈ t.relocations, r.value space < 2 ^ 32) ∧
      payload = patchAll t.bytes (t.patches space table vidTable) := by
  obtain ⟨relocated, hrel, h⟩ := except_bind_eq_ok_iff.mp h
  obtain ⟨tabled, htab, hvid⟩ := except_bind_eq_ok_iff.mp h
  obtain ⟨hv, rfl⟩ := relocateAll_ok hrel
  refine ⟨hv, ?_⟩
  rw [copyInto_ok hvid, copyInto_ok htab, Trampoline.patches, patchAll, patchAll, List.foldl_append]
  rfl

theorem Pieces.map_patchRange {space : FreeSpace} {table vidTable : List UInt8}
    (htable : table.length = 40) (hvid : vidTable.length = 40) :
    (q.trampoline.patches space table vidTable).map patchRange = q.patches.map Prod.snd := by
  simp only [Trampoline.patches, Pieces.trampoline, patches, List.map_append, List.map_map,
    List.map_cons, List.map_nil, patchRange, htable, hvid]
  rfl

/-- The policy copy in a payload placed from `base`: every placeholder names where it lies, its
eligibility method is the stub, and the rest is the OEM table. -/
structure PolicyPlaced (q : Pieces) (sites : Sites) (base : ℕ) (payload : List UInt8) : Prop where
  length_le : sites.tableLength ≤ payload.length
  tail : q.start .policy + sites.tableLength = payload.length
  fits : base + q.start .policy < 2 ^ 32
  address : sites.policyTable base payload.length = base + q.start .policy
  owned : Stands payload q.ownedPolicyAt
    (u32ToBeBytes (sites.policyTable base payload.length))
  installed : Stands payload q.policyAt (u32ToBeBytes (sites.policyTable base payload.length))
  vid : Stands payload (q.start .vidCode + q.vidPolicyAt)
    (u32ToBeBytes (sites.policyTable base payload.length))
  method : Stands payload (q.start .policy + 0x100) (u32ToBeBytes (base + q.start .eligibility))
  stub : Stands payload (q.start .eligibility) q.eligibility
  rest : ∀ i < sites.tableLength, i ∉ Range.sized 0x100 4 →
    payload[q.start .policy + i]? = q.securityTable[i]?

/-- The patches of the eligibility stub and of the policy copy: none, and the one method. -/
theorem Pieces.patches_part : (∀ x ∈ q.patches, x.1 ≠ .eligibility) ∧
    ∀ x ∈ q.patches, x.1 = .policy → x.2 = .sized (q.start .policy + 0x100) 4 := by
  simp only [patches, relocations, List.map_cons, List.map_nil, List.cons_append, List.nil_append,
    List.forall_mem_cons, List.not_mem_nil, false_implies, implies_true, and_true, reduceCtorEq,
    ne_eq, not_false_eq_true, Relocation.range]

theorem Pieces.Generated.policyPlaced (hq : q.Generated P H main helper invalid sites)
    (hlen : 0x104 ≤ sites.tableLength) {space : FreeSpace} {table vidTable payload : List UInt8}
    (htable : table.length = 40) (hvid : vidTable.length = 40)
    (h : place space q.trampoline table vidTable = .ok payload) :
    PolicyPlaced q sites space.cpu.start payload := by
  obtain ⟨hv, hpayload⟩ := place_ok h
  set patches := q.trampoline.patches space table vidTable
  obtain rfl : payload = patchAll q.bytes patches := hpayload
  have hmap : patches.map patchRange = q.patches.map Prod.snd := q.map_patchRange htable hvid
  have hpart : ∀ p ∈ patches, ∃ x ∈ q.patches, x.2 = patchRange p := fun p hp =>
    List.mem_map.mp (hmap ▸ List.mem_map_of_mem hp)
  have hle : ∀ p ∈ patches, p.1 + p.2.length ≤ q.bytes.length := by
    intro p hp
    obtain ⟨x, hx, hxp⟩ := hpart p hp
    have hin := (hq.patches_inside hlen x hx).2
    rw [hxp] at hin
    exact hin.trans (partRange_le x.1.mem_order)
  have hdisj : patches.Pairwise fun p p' => (patchRange p).Disjoint (patchRange p') := by
    have := List.pairwise_map.mpr (hq.patches_disjoint hlen)
    rw [← hmap] at this
    exact List.pairwise_map.mp this
  have hstands {p : ℕ × List UInt8} (hp : p ∈ patches) :
      Stands (patchAll q.bytes patches) p.1 p.2 :=
    stands_patchAll hle hdisj hp
  have hfits : space.cpu.start + q.start .policy < 2 ^ 32 :=
    hv ⟨q.policyAt, q.start .policy, false⟩ (by simp [Pieces.trampoline, Pieces.relocations])
  have htail : q.start .policy + sites.tableLength = (patchAll q.bytes patches).length := by
    rw [length_patchAll hle, ← hq.securityTable, q.starts.2.2.2.2.2.2.2.2.2.2]
  have haddress : sites.policyTable space.cpu.start (patchAll q.bytes patches).length =
      space.cpu.start + q.start .policy := by
    rw [Sites.policyTable, ← htail]
    omega
  have hrel {r : Relocation} (hr : r ∈ q.trampoline.relocations) :
      (r.offset, u32ToBeBytes (r.value space)) ∈ patches :=
    List.mem_append_left _ (List.mem_map_of_mem hr)
  refine ⟨by omega, htail, hfits, haddress, ?_, ?_, ?_, ?_, ?_, ?_⟩
  · rw [haddress]
    exact hstands (hrel (r := ⟨q.ownedPolicyAt, q.start .policy, false⟩)
      (by simp [Pieces.trampoline, Pieces.relocations]))
  · rw [haddress]
    exact hstands (hrel (r := ⟨q.policyAt, q.start .policy, false⟩)
      (by simp [Pieces.trampoline, Pieces.relocations]))
  · rw [haddress]
    exact hstands (hrel (r := ⟨q.start .vidCode + q.vidPolicyAt, q.start .policy, false⟩)
      (by simp [Pieces.trampoline, Pieces.relocations]))
  · exact hstands (hrel (r := ⟨q.start .policy + 0x100, q.start .eligibility, false⟩)
      (by simp [Pieces.trampoline, Pieces.relocations]))
  · refine (stands_part (Part.mem_order .eligibility)).patchAll hle fun p hp => ?_
    obtain ⟨x, hx, hxp⟩ := hpart p hp
    rw [← hxp]
    exact ((partRange_disjoint x.1.mem_order (Part.mem_order .eligibility)
      (q.patches_part.1 x hx)).mono (hq.patches_inside hlen x hx)).symm
  · intro i hi hmethod
    rw [← hq.securityTable] at hi
    refine (getElem?_patchAll hle fun p hp => ?_).trans
      ((stands_part (Part.mem_order .policy)).getElem? hi)
    obtain ⟨x, hx, hxp⟩ := hpart p hp
    rw [← hxp]
    by_cases hxs : x.1 = .policy
    · rw [q.patches_part.2 x hx hxs]
      simp only [Range.mem_sized] at hmethod ⊢
      omega
    · refine Range.disjoint_iff.mp ((partRange_disjoint x.1.mem_order (Part.mem_order .policy)
        hxs).mono (hq.patches_inside hlen x hx)).symm _ ⟨Nat.le_add_right _ i, ?_⟩
      exact Nat.add_lt_add_left hi _

/-! ## The layout of every payload -/

/-- A payload's parts fill it without overlap, and its patches each keep to their part. -/
structure Pieces.LaidOut (q : Pieces) : Prop where
  disjoint : ∀ s s', s ≠ s' → (q.range s).Disjoint (q.range s')
  inside : ∀ s, Range.Contains ⟨0, q.bytes.length⟩ (q.range s)
  stands : ∀ s, Stands q.bytes (q.start s) (q.part s)
  patches : q.trampoline.relocations.map Relocation.range ++
    [.sized q.trampoline.tableOffset 40, .sized q.trampoline.vidTableOffset 40] =
      q.patches.map Prod.snd
  own : ∀ x ∈ q.patches, (q.range x.1).Contains x.2
  apart : q.patches.Pairwise fun x y => x.2.Disjoint y.2

theorem Pieces.Generated.laidOut (hq : q.Generated P H main helper invalid sites)
    (hlen : 0x104 ≤ sites.tableLength) : q.LaidOut where
  disjoint s s' hne := partRange_disjoint s.mem_order s'.mem_order hne
  inside s := ⟨Nat.zero_le _, partRange_le s.mem_order⟩
  stands s := stands_part s.mem_order
  patches := by simp only [patches, trampoline, List.map_append, List.map_map]; rfl
  own := hq.patches_inside hlen
  apart := hq.patches_disjoint hlen

/-- Every payload that assembly succeeds with is laid out, its policy copy is where the hooks say
at any base, and what preparation plans to write is such a payload. -/
theorem payload_layout :
    (∀ {main helper invalid sites securityTable t}, 0x104 ≤ sites.tableLength →
      assemble P H main helper invalid sites securityTable = .ok t →
      ∃ q : Pieces, q.Generated P H main helper invalid sites ∧ q.securityTable = securityTable ∧
        t = q.trampoline ∧ q.LaidOut ∧
        ∀ {space table vidTable payload}, table.length = 40 → vidTable.length = 40 →
          place space t table vidTable = .ok payload →
          PolicyPlaced q sites space.cpu.start payload) ∧
    ∀ {S existing τ p}, Run (prepare (P.assembling H S) existing).run τ (.ok p) →
      ∃ main helper invalid securityTable t space table vidTable, 0x104 ≤ p.sites.tableLength ∧
        assemble P H main helper invalid p.sites securityTable = .ok t ∧ table.length = 40 ∧
        vidTable.length = 40 ∧ p.allocation = space.cpu ∧
        place space t table vidTable = .ok p.payload := by
  constructor
  · intro main helper invalid sites securityTable t hlen h
    obtain ⟨q, hq, htable, -, rfl⟩ := assemble_ok h
    exact ⟨q, hq, htable, rfl, hq.laidOut hlen, fun h₁ h₂ hp => hq.policyPlaced hlen h₁ h₂ hp⟩
  · intro S existing τ p h
    obtain ⟨image, t, space, table, vidTable, hd⟩ := run_prepare_derived h
    obtain ⟨base, main, helper, invalid, securityTable, hsites, -, ht⟩ := build_ok hd.built
    exact ⟨main, helper, invalid, securityTable, t, space, table, vidTable,
      (Sites.discover_ok hsites).2.2, ht, hd.length_table, hd.length_vidTable, hd.allocation,
      hd.placed⟩

theorem payload_layout_sample : ∃ p : Prepared, ∃ q : Pieces, q.LaidOut ∧
    PolicyPlaced q p.sites p.allocation.start p.payload := by
  obtain ⟨τ, p, h⟩ := run_prepare_image
  obtain ⟨main, helper, invalid, securityTable, t, space, table, vidTable, hlen, ht, h₁, h₂, ha,
    hp⟩ := payload_layout.2 h
  obtain ⟨q, -, -, -, hq, hplaced⟩ := payload_layout.1 hlen ht
  exact ⟨p, q, hq, ha ▸ hplaced h₁ h₂ hp⟩

end FreemkvUnlock.Renesas
