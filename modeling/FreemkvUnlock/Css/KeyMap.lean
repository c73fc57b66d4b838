import FreemkvUnlock.Css.CryptKey
import FreemkvUnlock.Mixing.Cascade

/-! # How much the key tells of the challenge

Under a fixed keystream each of the six rounds substitutes the cells of its input under one
another. The first lookups are permutations of the bytes. The extra lookup of the third and the
fourth round merges each byte with its complement, so these rounds are 32 to one and no key that
is reached is reached from fewer than 32 challenges.
-/

namespace FreemkvUnlock.Css

open Mixing

/-! ## Tables -/

def lookFirst (idx : UInt8) : UInt8 := look cryptTab1 idx ^^^ ~~~look cryptTab2 idx

def lookNext (idx2 : UInt8) : UInt8 := look cryptTab2 idx2 ^^^ look cryptTab3 idx2

def combined (op : UInt8 → UInt8 → UInt8) (t t' : Array UInt8) : List UInt8 :=
  List.zipWith op t.toList t'.toList

theorem getElem?_combined {op : UInt8 → UInt8 → UInt8} {t t' : Array UInt8} (h : t.size = 256)
    (h' : t'.size = 256) (x : UInt8) :
    (combined op t t')[x.toNat]? = some (op (look t x) (look t' x)) := by
  have hx : x.toNat < t.size := h ▸ x.toNat_lt
  have hx' : x.toNat < t'.size := h' ▸ x.toNat_lt
  simp [combined, look, hx, hx']

/-- The bytes of a list, as the bits of a number. -/
def byteMask (ys : List UInt8) : ℕ := ys.foldl (fun m y => m ||| 1 <<< y.toNat) 0

theorem mem_of_testBit_foldl {y : UInt8} {ys : List UInt8} {m : ℕ}
    (h : (ys.foldl (fun m y => m ||| 1 <<< y.toNat) m).testBit y.toNat = true) :
    m.testBit y.toNat = true ∨ y ∈ ys := by
  induction ys generalizing m with
  | nil => exact .inl h
  | cons z ys ih =>
    rcases ih h with h | h
    · rw [Nat.testBit_or, Bool.or_eq_true] at h
      refine h.imp id fun h => ?_
      rw [Nat.one_shiftLeft, Nat.testBit_two_pow, decide_eq_true_iff] at h
      exact UInt8.toNat_inj.mp h ▸ List.mem_cons_self
    · exact .inr (List.mem_cons_of_mem z h)

theorem mem_of_byteMask {ys : List UInt8} (h : byteMask ys = 2 ^ 256 - 1) (y : UInt8) :
    y ∈ ys := by
  have hbit : (byteMask ys).testBit y.toNat = true := by
    rw [h, Nat.testBit_two_pow_sub_one, decide_eq_true_iff]
    exact y.toNat_lt
  refine (mem_of_testBit_foldl hbit).resolve_left fun h0 => ?_
  rw [Nat.zero_testBit] at h0
  cases h0

instance instFiniteUInt8 : Finite UInt8 := .of_injective UInt8.toFin fun _ _ => UInt8.toFin_inj.mp

/-- Tables that give every byte when they are combined permute the bytes. -/
theorem injective_of_byteMask {op : UInt8 → UInt8 → UInt8} {t t' : Array UInt8}
    (ht : t.size = 256) (ht' : t'.size = 256) (h : byteMask (combined op t t') = 2 ^ 256 - 1) :
    Function.Injective fun x => op (look t x) (look t' x) := by
  refine Finite.injective_iff_surjective.mpr fun y => ?_
  obtain ⟨i, hi, hy⟩ := List.mem_iff_getElem.mp (mem_of_byteMask h y)
  have hlt : i < 256 := by
    simp only [combined, List.length_zipWith, Array.length_toList, ht, ht'] at hi
    omega
  have hat := @getElem?_combined op _ _ ht ht' (UInt8.ofNat i)
  rw [UInt8.toNat_ofNat', Nat.mod_eq_of_lt hlt, List.getElem?_eq_getElem hi, hy] at hat
  exact ⟨UInt8.ofNat i, (Option.some.inj hat).symm⟩

theorem size_cryptTabs : cryptTab0.size = 256 ∧ cryptTab1.size = 256 ∧ cryptTab2.size = 256 ∧
    cryptTab3.size = 256 := by
  decide +kernel

/-- The two lookups of a round take every byte as a value. -/
theorem byteMask_tables :
    byteMask (combined (fun a b => a ^^^ ~~~b) cryptTab1 cryptTab2) = 2 ^ 256 - 1 ∧
      byteMask (combined (· ^^^ ·) cryptTab2 cryptTab3) = 2 ^ 256 - 1 := by
  decide +kernel

theorem lookFirst_injective : Function.Injective lookFirst := by
  obtain ⟨-, h₁, h₂, -⟩ := size_cryptTabs
  have := injective_of_byteMask h₁ h₂ byteMask_tables.1
  exact this

theorem lookNext_injective : Function.Injective lookNext := by
  obtain ⟨-, -, h₂, h₃⟩ := size_cryptTabs
  have := injective_of_byteMask h₂ h₃ byteMask_tables.2
  exact this

/-- What the extra lookup makes of each byte. -/
def againValues : List UInt8 := combined (· ^^^ ·) cryptTab0 cryptTab2

theorem getElem?_againValues (x : UInt8) : againValues[x.toNat]? = some (lookAgain x) :=
  getElem?_combined size_cryptTabs.1 size_cryptTabs.2.2.1 x

/-- A byte below 128 from what the extra lookup makes of it. -/
def undoAgain (y : UInt8) : UInt8 :=
  let z := y &&& 0x7F
  z ^^^ z >>> 1 ^^^ z >>> 2 ^^^ z >>> 3 ^^^ z >>> 4 ^^^ z >>> 5 ^^^ z >>> 6

/-- The values of the extra lookup read the same from both ends, and none comes twice in the first
half. -/
theorem againValues_table : againValues.length = 256 ∧ againValues.reverse = againValues ∧
    (againValues.take 128).map undoAgain = (List.range 128).map UInt8.ofNat := by
  decide +kernel

theorem lookAgain_complement (x : UInt8) : lookAgain (~~~x) = lookAgain x := by
  obtain ⟨hlen, hsym, -⟩ := againValues_table
  have hx := getElem?_againValues (~~~x)
  rw [← hsym, List.getElem?_reverse (by rw [hlen]; exact UInt8.toNat_lt _), hlen,
    UInt8.toNat_not] at hx
  have hsub : 256 - 1 - (UInt8.size - 1 - x.toNat) = x.toNat := by
    have := x.toNat_lt
    simp only [UInt8.size]
    omega
  rw [hsub, getElem?_againValues] at hx
  exact (Option.some.inj hx).symm

theorem undoAgain_lookAgain {x : UInt8} (hx : x.toNat < 128) : undoAgain (lookAgain x) = x := by
  have hat := congrArg (·[x.toNat]?) againValues_table.2.2
  simp only [List.getElem?_map, List.getElem?_take, hx, if_true, getElem?_againValues,
    List.getElem?_range hx, Option.map_some, Option.some.injEq, UInt8.ofNat_toNat] at hat
  exact hat

/-- The extra lookup merges exactly each byte with its complement. -/
theorem lookAgain_eq_iff {x y : UInt8} : lookAgain x = lookAgain y ↔ x = y ∨ x = ~~~y := by
  constructor
  · -- Of a byte and its complement one is below 128.
    have hlow (z : UInt8) : ∃ w : UInt8, w.toNat < 128 ∧ lookAgain w = lookAgain z ∧
        (z = w ∨ z = ~~~w) := by
      by_cases hz : z.toNat < 128
      · exact ⟨z, hz, rfl, .inl rfl⟩
      · refine ⟨~~~z, ?_, lookAgain_complement z, .inr UInt8.not_not.symm⟩
        have := z.toNat_lt
        simp only [UInt8.toNat_not, UInt8.size]
        omega
    obtain ⟨v, hv, hlv, hx⟩ := hlow x
    obtain ⟨w, hw, hlw, hy⟩ := hlow y
    intro h
    obtain rfl : v = w := by
      rw [← undoAgain_lookAgain hv, ← undoAgain_lookAgain hw, hlv, hlw, h]
    rcases hx with rfl | rfl <;> rcases hy with rfl | rfl <;> simp
  · rintro (rfl | rfl)
    · rfl
    · exact lookAgain_complement y

theorem merges_lookAgain : Merges lookAgain 2 := by
  intro x
  have : {y | lookAgain y = lookAgain x} = {x, ~~~x} := by
    ext y
    exact lookAgain_eq_iff
  rw [this]
  refine Set.ncard_pair fun h => ?_
  have := congrArg (·.toNat % 2) h
  simp only [UInt8.toNat_not, UInt8.size] at this
  have := x.toNat_lt
  omega

/-! ## Rounds -/

variable {substitute : UInt8 → UInt8} {cse : UInt8} {bits : List UInt8} {offset : ℕ}

/-- What a round does to one byte under the next, up to its last substitution. -/
def mixCell (cse : UInt8) (bits : List UInt8) (offset : ℕ) (i : Fin 5) (b next : UInt8) : UInt8 :=
  lookNext (lookFirst (bits.getD (offset + i) 0 ^^^ b) ^^^ cse) ^^^ next

theorem mixCell_injective (i : Fin 5) (next : UInt8) :
    Function.Injective fun b => mixCell cse bits offset i b next := by
  intro b b' h
  have h₁ := lookNext_injective ((UInt8.xor_left_inj next).mp h)
  exact (UInt8.xor_right_inj _).mp (lookFirst_injective ((UInt8.xor_left_inj cse).mp h₁))

/-- A round is a cascade, and then a substitution in every cell. -/
theorem mixRound_eq : mixRound substitute cse bits offset =
    fun v => (cascade (mixCell cse bits offset) 0 v).map substitute := by
  funext v
  refine Vector.ext fun i hi => ?_
  simp [mixRound, cascade, mixCell, lookFirst, lookNext]

theorem cascade_mixCell_bijective : Function.Bijective (cascade (mixCell cse bits offset) 0) :=
  cascade_bijective mixCell_injective

/-- The first, second, fifth and sixth rounds lose nothing. -/
theorem mixRound_id_bijective : Function.Bijective (mixRound id cse bits offset) := by
  rw [mixRound_eq]
  rw [Vector.map_id_fun]
  exact cascade_mixCell_bijective

/-- The third and fourth rounds are 32 to one. -/
theorem merges_mixRound_lookAgain : Merges (mixRound lookAgain cse bits offset) 32 := by
  rw [mixRound_eq]
  exact merges_lookAgain.map.comp_bijective cascade_mixCell_bijective

theorem foldFirst_bijective : Function.Bijective foldFirst := by
  refine Finite.injective_iff_bijective.mp fun v w h => ?_
  have hat (i : ℕ) (hi : i < 5) : (foldFirst v)[i] = (foldFirst w)[i] := by rw [h]
  have h₀ : v[0] = w[0] := by simpa [foldFirst] using hat 0 (by decide)
  have h₄ : v[4] = w[4] := by simpa [foldFirst, h₀] using hat 4 (by decide)
  refine Vector.ext fun i hi => ?_
  by_cases h4 : i = 4
  · subst h4
    exact h₄
  · simpa [foldFirst, Vector.getElem_set, Ne.symm h4] using hat i hi

/-! ## The whole key -/

def cssVariant (keyType : Fin 3) (variant : Fin 32) : ℕ :=
  match keyType with
  | 0 => variant
  | 1 => ((permVariant.getD 0 #[]).getD variant 0).toNat
  | 2 => ((permVariant.getD 1 #[]).getD variant 0).toNat

def variantByte (keyType : Fin 3) (variant : Fin 32) : UInt8 :=
  variants.getD (cssVariant keyType variant) 0 ^^^ cryptTab2.getD (cssVariant keyType variant) 0

def mixStart (cse : UInt8) (bits : List UInt8) (v : Vector UInt8 5) : Vector UInt8 5 :=
  foldFirst (mixRound id cse bits 20 (foldFirst (mixRound id cse bits 25 v)))

def mixEnd (cse : UInt8) (bits : List UInt8) (v : Vector UInt8 5) : Vector UInt8 5 :=
  mixRound id cse bits 0 (foldFirst (mixRound id cse bits 5 (foldFirst v)))

def mixAll (cse : UInt8) (bits : List UInt8) (v : Vector UInt8 5) : Vector UInt8 5 :=
  mixEnd cse bits (mixRound lookAgain cse bits 10
    (foldFirst (mixRound lookAgain cse bits 15 (mixStart cse bits v))))

theorem cryptKey_eq (keyType : Fin 3) (variant : Fin 32) (challenge : Vector UInt8 10) :
    cryptKey keyType variant challenge = mixAll (variantByte keyType variant)
      (keystream (seeding (permuted keyType challenge))) (mixed (permuted keyType challenge)) := by
  have htmp : (Vector.ofFn fun i : Fin 5 =>
      (permuted keyType challenge)[5 + i.val] ^^^ secret[i] ^^^ cryptTab2.getD i 0) =
      Vector.ofFn fun i : Fin 5 =>
        (seeding (permuted keyType challenge))[i] ^^^ secret[i] ^^^ cryptTab2.getD i 0 := by
    simp [seeding]
  rw [keystream, ← htmp]
  rfl

theorem mixStart_bijective (cse : UInt8) (bits : List UInt8) :
    Function.Bijective (mixStart cse bits) :=
  foldFirst_bijective.comp <| mixRound_id_bijective.comp <| foldFirst_bijective.comp
    mixRound_id_bijective

theorem mixEnd_bijective (cse : UInt8) (bits : List UInt8) : Function.Bijective (mixEnd cse bits) :=
  mixRound_id_bijective.comp <| foldFirst_bijective.comp <| mixRound_id_bijective.comp
    foldFirst_bijective

/-- Both lossy rounds are seen in the key, and nothing else is lost. -/
theorem mixAll_fibre (cse : UInt8) (bits : List UInt8) (v : Vector UInt8 5) :
    32 ≤ {w | mixAll cse bits w = mixAll cse bits v}.ncard ∧
      {w | mixAll cse bits w = mixAll cse bits v}.ncard ≤ 1024 := by
  have hthird : Merges (mixRound lookAgain cse bits 15 ∘ mixStart cse bits) 32 :=
    merges_mixRound_lookAgain.comp_bijective (mixStart_bijective cse bits)
  have hfourth : Merges (mixRound lookAgain cse bits 10 ∘ foldFirst) 32 :=
    merges_mixRound_lookAgain.comp_bijective foldFirst_bijective
  have hset : {w | mixAll cse bits w = mixAll cse bits v} =
      {w | (mixRound lookAgain cse bits 10 ∘ foldFirst)
          ((mixRound lookAgain cse bits 15 ∘ mixStart cse bits) w) =
        (mixRound lookAgain cse bits 10 ∘ foldFirst)
          ((mixRound lookAgain cse bits 15 ∘ mixStart cse bits) v)} :=
    Set.ext fun w => (mixEnd_bijective cse bits).1.eq_iff
  rw [hset]
  exact ⟨hthird.le_comp _ v, hthird.comp_le hfourth v⟩

/-! ## Challenges -/

/-- The challenge that is permuted to given mixed and seeding bytes. -/
def challengeOf (keyType : Fin 3) (v seed : Vector UInt8 5) : Vector UInt8 10 :=
  (permIndex keyType).map fun i => (v ++ seed)[i]

theorem permuted_challengeOf (keyType : Fin 3) (v seed : Vector UInt8 5) :
    permuted keyType (challengeOf keyType v seed) = v ++ seed := by
  refine Vector.ext fun i hi => ?_
  have := permIndex_permChallenge keyType ⟨i, hi⟩
  simp only [Fin.getElem_fin] at this
  simp [permuted, challengeOf, this]

theorem mixed_append (v seed : Vector UInt8 5) : mixed (v ++ seed) = v :=
  Vector.ext fun i hi => by
    rw [mixed, Vector.getElem_ofFn, Vector.getElem_append, dif_pos hi]

theorem seeding_append (v seed : Vector UInt8 5) : seeding (v ++ seed) = seed :=
  Vector.ext fun i hi => by
    rw [seeding, Vector.getElem_ofFn, Vector.getElem_append, dif_neg (by omega)]
    simp only [Nat.add_sub_cancel_left]

theorem challengeOf_permuted (keyType : Fin 3) (challenge : Vector UInt8 10) :
    challengeOf keyType (mixed (permuted keyType challenge))
      (seeding (permuted keyType challenge)) = challenge := by
  refine Vector.ext fun i hi => ?_
  have hp := permChallenge_permIndex keyType ⟨i, hi⟩
  simp only [Fin.getElem_fin] at hp
  have hsplit (j : Fin 10) : (mixed (permuted keyType challenge) ++
      seeding (permuted keyType challenge))[j] = (permuted keyType challenge)[j] := by
    simp only [Fin.getElem_fin, Vector.getElem_append, mixed, seeding, Vector.getElem_ofFn]
    split_ifs with hj
    · rfl
    · congr 1
      omega
  simp only [challengeOf, Vector.getElem_map, hsplit]
  simp [permuted, hp]

theorem ncard_challenges (keyType : Fin 3) (seed : Vector UInt8 5) (R : Vector UInt8 5 → Prop) :
    {c | seeding (permuted keyType c) = seed ∧ R (mixed (permuted keyType c))}.ncard =
      {v | R v}.ncard := by
  have hinj : Function.Injective fun v => challengeOf keyType v seed := by
    intro v w h
    have := congrArg (fun c => mixed (permuted keyType c)) h
    simpa only [permuted_challengeOf, mixed_append] using this
  rw [← Set.ncard_image_of_injective _ hinj]
  congr 1
  ext c
  constructor
  · rintro ⟨rfl, hR⟩
    exact ⟨_, hR, challengeOf_permuted keyType c⟩
  · rintro ⟨v, hR, rfl⟩
    refine ⟨?_, ?_⟩
    · rw [permuted_challengeOf, seeding_append]
    · rwa [permuted_challengeOf, mixed_append]

theorem cryptKey_eq_iff {keyType : Fin 3} {c c' : Vector UInt8 10} (variant : Fin 32)
    (h : seeding (permuted keyType c) = seeding (permuted keyType c')) :
    cryptKey keyType variant c = cryptKey keyType variant c' ↔
      mixAll (variantByte keyType variant) (keystream (seeding (permuted keyType c')))
          (mixed (permuted keyType c)) =
        mixAll (variantByte keyType variant) (keystream (seeding (permuted keyType c')))
          (mixed (permuted keyType c')) := by
  rw [cryptKey_eq, cryptKey_eq, h]

/-- Under fixed seeding bytes every key that is reached is reached from at least 32 challenges
and from at most 1024. What is lost is lost in the third and the fourth round, whose extra lookup
merges a byte with its complement. -/
theorem cryptKey_fibre :
    Function.Injective lookFirst ∧ Function.Injective lookNext ∧
    (∀ x y, lookAgain x = lookAgain y ↔ x = y ∨ x = ~~~y) ∧
    (∀ cse bits offset, Function.Bijective (mixRound id cse bits offset) ∧
      Merges (mixRound lookAgain cse bits offset) 32) ∧
    ∀ keyType variant challenge,
      32 ≤ {c | seeding (permuted keyType c) = seeding (permuted keyType challenge) ∧
        cryptKey keyType variant c = cryptKey keyType variant challenge}.ncard ∧
      {c | seeding (permuted keyType c) = seeding (permuted keyType challenge) ∧
        cryptKey keyType variant c = cryptKey keyType variant challenge}.ncard ≤ 1024 := by
  refine ⟨lookFirst_injective, lookNext_injective, fun _ _ => lookAgain_eq_iff,
    fun _ _ _ => ⟨mixRound_id_bijective, merges_mixRound_lookAgain⟩,
    fun keyType variant challenge => ?_⟩
  have hset : {c | seeding (permuted keyType c) = seeding (permuted keyType challenge) ∧
      cryptKey keyType variant c = cryptKey keyType variant challenge} =
      {c | seeding (permuted keyType c) = seeding (permuted keyType challenge) ∧
        mixAll (variantByte keyType variant) (keystream (seeding (permuted keyType challenge)))
            (mixed (permuted keyType c)) =
          mixAll (variantByte keyType variant) (keystream (seeding (permuted keyType challenge)))
            (mixed (permuted keyType challenge))} :=
    Set.ext fun c => and_congr_right fun h => cryptKey_eq_iff variant h
  rw [hset, ncard_challenges keyType _ fun v => mixAll (variantByte keyType variant)
    (keystream (seeding (permuted keyType challenge))) v = _]
  exact mixAll_fibre _ _ _

/-- The keystream of the challenge of ten zeros. -/
def zeroStream : List UInt8 := [44, 132, 64, 152, 239, 245, 221, 80, 196, 63, 203, 176, 60, 53, 3,
  185, 112, 11, 64, 191, 84, 72, 50, 199, 206, 200, 227, 44, 81, 102]

/-- The two challenges below up to the third round, where they still differ, and the round whose
extra lookup merges them. -/
theorem zeroStream_rounds :
    keystream (seeding (permuted 0 (Vector.replicate 10 0))) = zeroStream ∧
    foldFirst (mixRound id 0 zeroStream 25 #v[0, 0, 0, 0, 0]) = #v[207, 245, 4, 167, 30] ∧
    foldFirst (mixRound id 0 zeroStream 25 #v[98, 106, 37, 122, 220]) =
      #v[176, 3, 88, 40, 234] ∧
    foldFirst (mixRound id 0 zeroStream 20 #v[207, 245, 4, 167, 30]) =
      #v[77, 108, 250, 28, 11] ∧
    foldFirst (mixRound id 0 zeroStream 20 #v[176, 3, 88, 40, 234]) = #v[6, 108, 250, 28, 11] ∧
    mixRound lookAgain 0 zeroStream 15 #v[6, 108, 250, 28, 11] =
      mixRound lookAgain 0 zeroStream 15 #v[77, 108, 250, 28, 11] := by
  decide +kernel

/-- Two challenges with the same seeding bytes and the same key. -/
theorem cryptKey_collision :
    seeding (permuted 0 #v[37, 98, 0, 106, 0, 220, 0, 122, 0, 0]) =
      seeding (permuted 0 (Vector.replicate 10 0)) ∧
    mixed (permuted 0 #v[37, 98, 0, 106, 0, 220, 0, 122, 0, 0]) ≠
      mixed (permuted 0 (Vector.replicate 10 0)) ∧
    cryptKey 0 0 #v[37, 98, 0, 106, 0, 220, 0, 122, 0, 0] =
      cryptKey 0 0 (Vector.replicate 10 0) := by
  have hparts : seeding (permuted 0 #v[37, 98, 0, 106, 0, 220, 0, 122, 0, 0]) =
      seeding (permuted 0 (Vector.replicate 10 0)) ∧ variantByte 0 0 = 0 ∧
      mixed (permuted 0 (Vector.replicate 10 0)) = #v[0, 0, 0, 0, 0] ∧
      mixed (permuted 0 #v[37, 98, 0, 106, 0, 220, 0, 122, 0, 0]) = #v[98, 106, 37, 122, 220] := by
    decide +kernel
  obtain ⟨hseed, hcse, hzero, hother⟩ := hparts
  obtain ⟨hstream, hzero₁, hother₁, hzero₂, hother₂, hmeet⟩ := zeroStream_rounds
  refine ⟨hseed, by rw [hzero, hother]; decide, (cryptKey_eq_iff 0 hseed).2 ?_⟩
  rw [hstream, hcse, hzero, hother, mixAll, mixAll, mixStart, mixStart, hzero₁, hother₁, hzero₂,
    hother₂, hmeet]

end FreemkvUnlock.Css
