import FreemkvUnlock.Bytes.Memory
import Mathlib.Data.List.Infix

/-! # Laying out byte strings

Strings put together from named parts, where each part stands in the whole, and the patches
written over it. Patches that do not meet keep each other and everything outside them.
-/

namespace Bytes

variable {α ι : Type}

/-! ## Standing at an offset -/

/-- `part` stands in `bs` at `offset`. -/
def Stands (bs : List α) (offset : ℕ) (part : List α) : Prop := part <+: bs.drop offset

section Stands

variable {bs cs part part' : List α} {i j n : ℕ}

theorem stands_iff_extract : Stands bs i part ↔ bs.extract i (i + part.length) = part := by
  rw [Stands, List.prefix_iff_eq_take, List.extract_eq_take_drop, Nat.add_sub_cancel_left, eq_comm]

theorem Stands.le (h : Stands bs i part) (hpos : part ≠ []) : i + part.length ≤ bs.length := by
  have hlen := h.length_le
  have := List.length_pos_iff.mpr hpos
  rw [List.length_drop] at hlen
  omega

theorem Stands.getElem? (h : Stands bs i part) (hn : n < part.length) :
    bs[i + n]? = part[n]? := by
  obtain ⟨rest, hrest⟩ := h
  rw [← List.getElem?_drop, ← hrest, List.getElem?_append_left hn]

theorem stands_iff_getElem? : Stands bs i part ↔ ∀ n < part.length, bs[i + n]? = part[n]? := by
  refine ⟨fun h n hn => h.getElem? hn, fun h => ?_⟩
  rw [stands_iff_extract]
  refine List.ext_getElem? fun n => ?_
  rw [List.extract_eq_take_drop, Nat.add_sub_cancel_left]
  by_cases hn : n < part.length
  · rw [List.getElem?_take_of_lt hn, List.getElem?_drop, h n hn]
  · rw [List.getElem?_eq_none (by simp; omega), List.getElem?_eq_none (by omega)]

theorem stands_append (part rest : List α) : Stands (part ++ rest) 0 part :=
  List.prefix_append part rest

theorem Stands.append (h : Stands bs i part) : Stands (cs ++ bs) (cs.length + i) part := by
  rwa [Stands, List.drop_length_add_append]

theorem Stands.trans (h : Stands bs i part) (h' : Stands part j part') :
    Stands bs (i + j) part' := by
  have := h.drop j
  rw [List.drop_drop] at this
  exact List.IsPrefix.trans h' this

/-- However `v` is shifted over `u`, the two disagree where they overlap. -/
def Apart (u v : List α) : Prop := ∀ d < u.length, ¬ u.drop d <+: v ∧ ¬ v <+: u.drop d

instance [DecidableEq α] (u v : List α) : Decidable (Apart u v) :=
  inferInstanceAs (Decidable (∀ d < u.length, _))

theorem Stands.disjoint (h : Stands bs i part) (h' : Stands bs j part') (hu : Apart part part')
    (hv : Apart part' part) : (Range.sized i part.length).Disjoint (.sized j part'.length) := by
  have overlap {u v : List α} {i d : ℕ} (hu : Stands bs i u) (hv : Stands bs (i + d) v) :
      u.drop d <+: v ∨ v <+: u.drop d := by
    have hd := hu.drop d
    rw [List.drop_drop] at hd
    exact List.prefix_or_prefix_of_prefix hd hv
  simp only [Range.Disjoint, Range.start_sized, Range.stop_sized]
  rcases le_total i j with hij | hij <;> obtain ⟨d, rfl⟩ := Nat.exists_eq_add_of_le hij
  · by_contra hc
    rcases overlap h h' with hp | hp
    · exact (hu d (by omega)).1 hp
    · exact (hu d (by omega)).2 hp
  · by_contra hc
    rcases overlap h' h with hp | hp
    · exact (hv d (by omega)).1 hp
    · exact (hv d (by omega)).2 hp

end Stands

/-! ## Named parts in a row -/

section Parts

variable [DecidableEq ι] (part : ι → List α)

/-- Where a part starts when the parts stand in the given order. -/
def start (part : ι → List α) : List ι → ι → ℕ
  | [], _ => 0
  | s :: order, t => if s = t then 0 else (part s).length + start part order t

/-- The offsets a part covers. -/
def partRange (order : List ι) (s : ι) : Range := .sized (start part order s) (part s).length

variable {part} {order : List ι} {s t : ι}

theorem stands_part (h : s ∈ order) :
    Stands (order.flatMap part) (start part order s) (part s) := by
  induction order with
  | nil => cases h
  | cons t order ih =>
    rw [List.flatMap_cons, start]
    split_ifs with ht
    · exact ht ▸ stands_append (part t) _
    · exact (ih ((List.mem_cons.mp h).resolve_left (Ne.symm ht))).append

theorem partRange_le (h : s ∈ order) :
    (partRange part order s).stop ≤ (order.flatMap part).length := by
  induction order with
  | nil => cases h
  | cons t order ih =>
    simp only [partRange, Range.stop_sized, start, List.flatMap_cons, List.length_append] at ih ⊢
    split_ifs with ht
    · subst ht; omega
    · have := ih ((List.mem_cons.mp h).resolve_left (Ne.symm ht))
      omega

theorem partRange_disjoint (hs : s ∈ order) (ht : t ∈ order) (hne : s ≠ t) :
    (partRange part order s).Disjoint (partRange part order t) := by
  induction order with
  | nil => cases hs
  | cons u order ih =>
    simp only [partRange, Range.Disjoint, Range.start_sized, Range.stop_sized, start] at ih ⊢
    split_ifs with h₁ h₂ h₂
    · exact absurd (h₁.symm.trans h₂) hne
    · subst h₁; omega
    · subst h₂; omega
    · have := ih ((List.mem_cons.mp hs).resolve_left (Ne.symm h₁))
        ((List.mem_cons.mp ht).resolve_left (Ne.symm h₂))
      omega

end Parts

/-! ## Patches -/

/-- `bs` with `new` written at `offset`. -/
def patch (bs : List α) (offset : ℕ) (new : List α) : List α :=
  bs.take offset ++ new ++ bs.drop (offset + new.length)

def patchAll (bs : List α) (patches : List (ℕ × List α)) : List α :=
  patches.foldl (fun bs p => patch bs p.1 p.2) bs

def patchRange (p : ℕ × List α) : Range := .sized p.1 p.2.length

section Patches

variable {bs part new : List α} {offset i n : ℕ} {p : ℕ × List α} {patches : List (ℕ × List α)}

theorem length_patch (h : offset + new.length ≤ bs.length) :
    (patch bs offset new).length = bs.length := by
  simp only [patch, List.length_append, List.length_take, List.length_drop]
  omega

theorem stands_patch (h : offset + new.length ≤ bs.length) :
    Stands (patch bs offset new) offset new := by
  have hlen : (bs.take offset).length = offset := by rw [List.length_take]; omega
  have : Stands (bs.take offset ++ (new ++ bs.drop (offset + new.length)))
      ((bs.take offset).length + 0) new := (stands_append new _).append
  rwa [hlen, Nat.add_zero, ← List.append_assoc] at this

theorem getElem?_patch (h : offset + new.length ≤ bs.length)
    (hi : i ∉ Range.sized offset new.length) : (patch bs offset new)[i]? = bs[i]? := by
  have hlen : (bs.take offset).length = offset := by rw [List.length_take]; omega
  rw [Range.mem_sized] at hi
  rw [patch, List.append_assoc]
  rcases lt_or_ge i offset with hlt | hge
  · rw [List.getElem?_append_left (by omega), List.getElem?_take_of_lt hlt]
  · rw [List.getElem?_append_right (by omega), List.getElem?_append_right (by omega), hlen,
      List.getElem?_drop]
    congr 1
    omega

theorem length_patchAll (h : ∀ p ∈ patches, p.1 + p.2.length ≤ bs.length) :
    (patchAll bs patches).length = bs.length := by
  induction patches generalizing bs with
  | nil => rfl
  | cons p patches ih =>
    have hp := length_patch (h p List.mem_cons_self)
    rw [patchAll, List.foldl_cons, ← patchAll, ih, hp]
    intro q hq
    rw [hp]
    exact h q (List.mem_cons_of_mem p hq)

theorem getElem?_patchAll (h : ∀ p ∈ patches, p.1 + p.2.length ≤ bs.length)
    (hi : ∀ p ∈ patches, i ∉ patchRange p) : (patchAll bs patches)[i]? = bs[i]? := by
  induction patches generalizing bs with
  | nil => rfl
  | cons p patches ih =>
    have hp := h p List.mem_cons_self
    rw [patchAll, List.foldl_cons, ← patchAll, ih, getElem?_patch hp (hi p List.mem_cons_self)]
    · intro q hq
      rw [length_patch hp]
      exact h q (List.mem_cons_of_mem p hq)
    · exact fun q hq => hi q (List.mem_cons_of_mem p hq)

theorem Stands.patchAll (hs : Stands bs i part)
    (h : ∀ p ∈ patches, p.1 + p.2.length ≤ bs.length)
    (hd : ∀ p ∈ patches, (Range.sized i part.length).Disjoint (patchRange p)) :
    Stands (patchAll bs patches) i part := by
  refine stands_iff_getElem?.mpr fun n hn => ?_
  rw [getElem?_patchAll h fun p hp => Range.disjoint_iff.mp (hd p hp) _ ⟨by simp, by simpa⟩]
  exact hs.getElem? hn

/-- Patches that do not meet all stand in the result. -/
theorem stands_patchAll (h : ∀ p ∈ patches, p.1 + p.2.length ≤ bs.length)
    (hd : patches.Pairwise fun p q => (patchRange p).Disjoint (patchRange q)) (hp : p ∈ patches) :
    Stands (patchAll bs patches) p.1 p.2 := by
  induction patches generalizing bs with
  | nil => cases hp
  | cons q patches ih =>
    have hq := h q List.mem_cons_self
    have hle : ∀ r ∈ patches, r.1 + r.2.length ≤ (patch bs q.1 q.2).length := fun r hr => by
      rw [length_patch hq]
      exact h r (List.mem_cons_of_mem q hr)
    rw [List.pairwise_cons] at hd
    rcases List.mem_cons.mp hp with rfl | hp
    · exact (stands_patch hq).patchAll hle hd.1
    · exact ih hle hd.2 hp

end Patches

end Bytes
