import Mathlib.Data.Set.Operations
import Mathlib.Order.Nat
import Mathlib.Tactic.Common

/-! # Byte memory

Half-open address ranges, memories as functions from addresses to bytes, and the two ways a
transfer touches a memory: the slice it reads and the bytes it overwrites.
-/

namespace Bytes

/-! ## Address ranges -/

structure Range where
  start : ℕ
  stop : ℕ
  deriving DecidableEq, Repr

namespace Range

instance : Membership ℕ Range := ⟨fun r a => r.start ≤ a ∧ a < r.stop⟩

theorem mem_iff {r : Range} {a : ℕ} : a ∈ r ↔ r.start ≤ a ∧ a < r.stop := Iff.rfl

instance (r : Range) (a : ℕ) : Decidable (a ∈ r) := inferInstanceAs (Decidable (_ ∧ _))

def length (r : Range) : ℕ := r.stop - r.start

def sized (a n : ℕ) : Range := ⟨a, a + n⟩

@[simp] theorem start_sized (a n : ℕ) : (sized a n).start = a := rfl

@[simp] theorem stop_sized (a n : ℕ) : (sized a n).stop = a + n := rfl

@[simp] theorem length_sized (a n : ℕ) : (sized a n).length = n := Nat.add_sub_cancel_left a n

theorem mem_sized {a n x : ℕ} : x ∈ sized a n ↔ a ≤ x ∧ x < a + n := Iff.rfl

/-- `r` contains `s` as an interval. -/
def Contains (r s : Range) : Prop := r.start ≤ s.start ∧ s.stop ≤ r.stop

instance (r s : Range) : Decidable (r.Contains s) := inferInstanceAs (Decidable (_ ∧ _))

def Disjoint (r s : Range) : Prop :=
  r.stop ≤ s.start ∨ s.stop ≤ r.start ∨ r.stop ≤ r.start ∨ s.stop ≤ s.start

instance (r s : Range) : Decidable (r.Disjoint s) := inferInstanceAs (Decidable (_ ∨ _))

variable {r s t : Range} {a : ℕ}

theorem Contains.mem (h : r.Contains s) (ha : a ∈ s) : a ∈ r :=
  ⟨h.1.trans ha.1, ha.2.trans_le h.2⟩

theorem Contains.trans (h : r.Contains s) (h' : s.Contains t) : r.Contains t :=
  ⟨h.1.trans h'.1, h'.2.trans h.2⟩

theorem contains_refl (r : Range) : r.Contains r := ⟨le_rfl, le_rfl⟩

theorem disjoint_iff : r.Disjoint s ↔ ∀ a ∈ r, a ∉ s := by
  simp only [Disjoint, mem_iff]
  constructor
  · intro h a; omega
  · intro h
    by_contra hc
    have := h (max r.start s.start)
    omega

theorem Disjoint.symm (h : r.Disjoint s) : s.Disjoint r := by
  simp only [Disjoint] at h ⊢
  omega

theorem Disjoint.mono (h : r.Disjoint s) (hr : r.Contains t) : t.Disjoint s := by
  simp only [Disjoint, Contains] at *
  omega

end Range

/-! ## Memories -/

abbrev Memory : Type := ℕ → UInt8

namespace Memory

/-- The `n` bytes from address `a`. -/
def slice (M : Memory) (a n : ℕ) : List UInt8 := (List.range n).map fun i => M (a + i)

/-- The memory with `bytes` stored from address `a`. -/
def overwrite (M : Memory) (a : ℕ) (bytes : List UInt8) : Memory :=
  fun x => if a ≤ x then (bytes[x - a]?).getD (M x) else M x

variable {M N : Memory} {a b n x : ℕ} {bytes : List UInt8}

@[simp] theorem length_slice : (M.slice a n).length = n := by simp [slice]

theorem slice_eq_slice_iff :
    M.slice a n = N.slice a n ↔ ∀ x ∈ Range.sized a n, M x = N x := by
  simp only [slice, List.map_inj_left, List.mem_range, Range.mem_sized]
  constructor
  · rintro h x ⟨h₁, h₂⟩
    simpa [Nat.add_sub_cancel' h₁] using h (x - a) (by omega)
  · intro h i hi
    exact h _ ⟨by omega, by omega⟩

theorem overwrite_of_notMem (h : x ∉ Range.sized a bytes.length) :
    M.overwrite a bytes x = M x := by
  simp only [Range.mem_sized, not_and, not_lt] at h
  unfold overwrite
  split_ifs with ha
  · rw [List.getElem?_eq_none (by have := h ha; omega), Option.getD_none]
  · rfl

theorem overwrite_slice :
    M.overwrite a (N.slice a n) x = if x ∈ Range.sized a n then N x else M x := by
  split_ifs with h
  · obtain ⟨h₁, h₂⟩ := Range.mem_sized.mp h
    simp [overwrite, h₁, slice, List.getElem?_map,
      List.getElem?_range (show x - a < n by omega)]
  · exact overwrite_of_notMem (by rwa [length_slice])

theorem slice_overwrite_self : (M.overwrite a bytes).slice a bytes.length = bytes := by
  apply List.ext_getElem
  · simp
  · intro i h₁ h₂
    simp [slice, overwrite, h₂]

theorem slice_overwrite_of_disjoint
    (h : (Range.sized b n).Disjoint (Range.sized a bytes.length)) :
    (M.overwrite a bytes).slice b n = M.slice b n :=
  slice_eq_slice_iff.mpr fun x hx => overwrite_of_notMem (Range.disjoint_iff.mp h x hx)

/-! ### Agreement on a set of addresses -/

variable {s : Set ℕ}

theorem slice_eq_of_eqOn (h : Set.EqOn N M s) (hs : ∀ x ∈ Range.sized a n, x ∈ s) :
    N.slice a n = M.slice a n := slice_eq_slice_iff.mpr fun x hx => h (hs x hx)

/-- Storing bytes of `M` makes no address disagree with `M`, and its own addresses agree. -/
theorem eqOn_overwrite_slice (h : Set.EqOn N M s) :
    Set.EqOn (N.overwrite a (M.slice a n)) M (s ∪ {x | x ∈ Range.sized a n}) := by
  rintro x (hx | hx)
  · rw [overwrite_slice]
    split_ifs
    · rfl
    · exact h hx
  · rw [overwrite_slice]
    exact if_pos hx

theorem eqOn_overwrite_of_notMem (h : ∀ x ∈ Range.sized a bytes.length, x ∉ s) :
    Set.EqOn (M.overwrite a bytes) M s :=
  fun x hx => overwrite_of_notMem fun hmem => h x hmem hx

end Memory

end Bytes
