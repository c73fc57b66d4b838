import FreemkvUnlock.Bytes.Memory
import Mathlib.Algebra.Order.Group.Nat

/-! # Reading a range in chunks

A range is tiled by consecutive ranges that are not empty. What lies in it lies in exactly one of
them, and their slices put together are the slice of the whole. Cutting a range after every `size`
addresses gives a tiling.
-/

namespace Bytes

theorem Memory.slice_add (M : Memory) (a m n : ℕ) :
    M.slice a (m + n) = M.slice a m ++ M.slice (a + m) n := by
  simp [Memory.slice, List.range_add, Function.comp_def, Nat.add_assoc]

def Tiles (a b : ℕ) : List Range → Prop
  | [] => a = b
  | c :: cs => c.start = a ∧ a < c.stop ∧ Tiles c.stop b cs

variable {a b n size x : ℕ} {cs : List Range}

theorem Tiles.le (h : Tiles a b cs) : a ≤ b := by
  induction cs generalizing a with
  | nil => exact h.le
  | cons c cs ih => exact h.2.1.le.trans (ih h.2.2)

/-- Each address of a tiled range lies in one of the tiles, and no other address does. -/
theorem Tiles.countP (h : Tiles a b cs) (x : ℕ) :
    cs.countP (x ∈ ·) = if a ≤ x ∧ x < b then 1 else 0 := by
  induction cs generalizing a with
  | nil =>
    obtain rfl : a = b := h
    rw [List.countP_nil, if_neg (by omega)]
  | cons c cs ih =>
    obtain ⟨rfl, hlt, htiles⟩ := h
    have hle := htiles.le
    rw [List.countP_cons, ih htiles]
    simp only [decide_eq_true_eq, Range.mem_iff]
    split_ifs <;> omega

theorem Tiles.slice (M : Memory) (h : Tiles a b cs) :
    M.slice a (b - a) = cs.flatMap fun c => M.slice c.start c.length := by
  induction cs generalizing a with
  | nil =>
    obtain rfl : a = b := h
    rw [Nat.sub_self]
    rfl
  | cons c cs ih =>
    obtain ⟨rfl, hlt, htiles⟩ := h
    have hle := htiles.le
    have hsplit : b - c.start = c.length + (b - c.stop) := by
      unfold Range.length
      omega
    have hstop : c.start + c.length = c.stop := by
      unfold Range.length
      omega
    rw [List.flatMap_cons, ← ih htiles, hsplit, M.slice_add, hstop]

def chunkCount (size n : ℕ) : ℕ := (n + size - 1) / size

/-- `n` addresses from `a`, cut after every `size` addresses. -/
def chunks (size a n : ℕ) : List Range :=
  (List.range (chunkCount size n)).map fun i => .sized (a + size * i) (min size (n - size * i))

@[simp] theorem length_chunks : (chunks size a n).length = chunkCount size n := by simp [chunks]

theorem chunks_zero (hsize : 0 < size) : chunks size a 0 = [] := by
  have hcount : chunkCount size 0 = 0 := Nat.div_eq_of_lt (by omega)
  rw [chunks, hcount]
  rfl

theorem chunks_of_pos (hsize : 0 < size) (hn : 0 < n) : chunks size a n =
    .sized a (min size n) :: chunks size (a + min size n) (n - min size n) := by
  rcases le_total size n with h | h
  · have hcount : chunkCount size n = chunkCount size (n - size) + 1 := by
      rw [chunkCount, chunkCount, ← Nat.add_div_right _ hsize]
      congr 1
      omega
    rw [min_eq_left h, chunks, hcount, List.range_succ_eq_map, List.map_cons, List.map_map, chunks,
      Nat.mul_zero, Nat.add_zero, Nat.sub_zero, min_eq_left h]
    congr 1
    refine List.map_congr_left fun i _ => ?_
    rw [Function.comp_apply, Nat.mul_succ, Nat.add_comm (size * i), Nat.add_assoc, Nat.sub_add_eq]
  · have hcount : chunkCount size n = 1 := by
      rw [chunkCount, Nat.div_eq_iff hsize]
      omega
    rw [min_eq_right h, Nat.sub_self, chunks_zero hsize, chunks, hcount]
    simp [h]

theorem tiles_chunks (hsize : 0 < size) : Tiles a (a + n) (chunks size a n) := by
  induction n using Nat.strong_induction_on generalizing a with
  | h n ih =>
    rcases Nat.eq_zero_or_pos n with rfl | hn
    · rw [chunks_zero hsize]
      rfl
    · rw [chunks_of_pos hsize hn]
      refine ⟨rfl, by rw [Range.stop_sized]; omega, ?_⟩
      have hrest := @ih (n - min size n) (by omega) (a + min size n)
      rwa [show a + min size n + (n - min size n) = a + n by omega] at hrest

theorem length_le_of_mem_chunks {c : Range} (h : c ∈ chunks size a n) : c.length ≤ size := by
  obtain ⟨i, -, rfl⟩ := List.mem_map.mp h
  rw [Range.length_sized]
  exact min_le_left _ _

end Bytes
