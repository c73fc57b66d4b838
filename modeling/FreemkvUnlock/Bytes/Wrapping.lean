import FreemkvUnlock.Bytes.BigEndian
import Mathlib.Data.Set.Lattice
import Mathlib.Order.CompletePartialOrder

/-! # Memory with wrapping addresses

Memories whose addresses are words of a fixed width, so that a range may run over the top address
and go on at zero. Reads, writes and the laws by which they meet or miss each other.
-/

namespace Bytes

/-- Bytes at every `w`-bit address. -/
abbrev Store (w : ℕ) := BitVec w → UInt8

variable {w : ℕ} {m m' : Store w} {a b x : BitVec w} {n k : ℕ} {bs : List UInt8}

/-! ## Cells -/

def cells (a : BitVec w) (n : ℕ) : Set (BitVec w) := {x | (x - a).toNat < n}

theorem mem_cells : x ∈ cells a n ↔ (x - a).toNat < n := Iff.rfl

theorem add_sub_cancel_ofNat (a : BitVec w) (i : ℕ) :
    a + BitVec.ofNat w i - a = BitVec.ofNat w i := by
  rw [BitVec.add_comm, BitVec.add_sub_cancel]

theorem add_mem_cells {i : ℕ} (h : i < n) : a + BitVec.ofNat w i ∈ cells a n := by
  rw [mem_cells, add_sub_cancel_ofNat, BitVec.toNat_ofNat]
  exact (Nat.mod_le _ _).trans_lt h

theorem add_ofNat_inj {i j : ℕ} (hi : i < 2 ^ w) (hj : j < 2 ^ w) :
    a + BitVec.ofNat w i = a + BitVec.ofNat w j ↔ i = j := by
  refine ⟨fun h => ?_, congrArg fun i => a + BitVec.ofNat w i⟩
  have := congrArg BitVec.toNat (BitVec.add_right_inj a |>.mp h)
  rwa [BitVec.toNat_ofNat, BitVec.toNat_ofNat, Nat.mod_eq_of_lt hi, Nat.mod_eq_of_lt hj] at this

theorem self_mem_cells (h : 0 < n) : a ∈ cells a n := by
  rw [mem_cells, BitVec.sub_self]
  exact h

theorem exists_of_mem_cells (h : x ∈ cells a n) : ∃ i < n, x = a + BitVec.ofNat w i := by
  refine ⟨(x - a).toNat, h, ?_⟩
  rw [BitVec.ofNat_toNat, BitVec.setWidth_eq, BitVec.add_comm, BitVec.sub_add_cancel]

theorem cells_one : cells a 1 = {a} := by
  ext x
  refine ⟨fun hx => ?_, fun hx => hx ▸ self_mem_cells Nat.one_pos⟩
  obtain ⟨i, hi, rfl⟩ := exists_of_mem_cells hx
  rw [Nat.lt_one_iff.mp hi, BitVec.add_zero]
  rfl

theorem cells_subset {i : ℕ} (h : i + k ≤ n) : cells (a + BitVec.ofNat w i) k ⊆ cells a n := by
  intro x hx
  obtain ⟨j, hj, rfl⟩ := exists_of_mem_cells hx
  rw [BitVec.add_assoc, ← BitVec.ofNat_add]
  exact add_mem_cells (by omega)

theorem cells_mono (h : k ≤ n) : cells a k ⊆ cells a n := fun _ hx => hx.trans_le h

theorem disjoint_cells_add {i j l : ℕ} (h : i + k ≤ j) (hl : j + l ≤ 2 ^ w) :
    Disjoint (cells (a + BitVec.ofNat w i) k) (cells (a + BitVec.ofNat w j) l) := by
  rw [Set.disjoint_left]
  intro x hx hy
  obtain ⟨u, hu, rfl⟩ := exists_of_mem_cells hx
  obtain ⟨v, hv, hxy⟩ := exists_of_mem_cells hy
  rw [BitVec.add_assoc, BitVec.add_assoc, BitVec.add_right_inj, ← BitVec.ofNat_add,
    ← BitVec.ofNat_add] at hxy
  have := congrArg BitVec.toNat hxy
  rw [BitVec.toNat_ofNat, BitVec.toNat_ofNat, Nat.mod_eq_of_lt (by omega),
    Nat.mod_eq_of_lt (by omega)] at this
  omega

theorem disjoint_cells_next (h : n + k ≤ 2 ^ w) :
    Disjoint (cells a n) (cells (a + BitVec.ofNat w n) k) := by
  have hd := disjoint_cells_add (w := w) (a := a) (i := 0) (Nat.zero_add n).le h
  rwa [BitVec.add_zero] at hd

/-- Ranges that lie in order without wrapping do not meet. -/
theorem disjoint_cells (h : a.toNat + n ≤ b.toNat) (hb : b.toNat + k ≤ 2 ^ w) :
    Disjoint (cells a n) (cells b k) := by
  have hzero (c : BitVec w) : c = 0#w + BitVec.ofNat w c.toNat := by
    rw [BitVec.zero_add, BitVec.ofNat_toNat, BitVec.setWidth_eq]
  rw [hzero a, hzero b]
  exact disjoint_cells_add h hb

/-! ## Reads and writes -/

namespace Store

def read (m : Store w) (a : BitVec w) (n : ℕ) : List UInt8 :=
  (List.range n).map fun i => m (a + BitVec.ofNat w i)

def write (m : Store w) (a : BitVec w) (bs : List UInt8) : Store w :=
  fun x => bs[(x - a).toNat]?.getD (m x)

@[simp] theorem length_read : (m.read a n).length = n := by simp [read]

theorem getElem?_read {i : ℕ} (hi : i < n) :
    (m.read a n)[i]? = some (m (a + BitVec.ofNat w i)) := by
  rw [read, List.getElem?_map, List.getElem?_range hi, Option.map_some]

theorem read_congr (h : ∀ x ∈ cells a n, m x = m' x) : m.read a n = m'.read a n :=
  List.map_congr_left fun _ hi => h _ (add_mem_cells (List.mem_range.mp hi))

theorem read_add : m.read a (n + k) = m.read a n ++ m.read (a + BitVec.ofNat w n) k := by
  simp only [read, List.range_add, List.map_append, List.map_map, Function.comp_def,
    BitVec.ofNat_add, BitVec.add_assoc]

theorem read_one : m.read a 1 = [m a] := by
  simp [read, List.range_succ]

theorem write_of_notMem (h : x ∉ cells a bs.length) : m.write a bs x = m x := by
  rw [write, List.getElem?_eq_none (not_lt.mp h), Option.getD_none]

theorem write_singleton {c : UInt8} : m.write a [c] x = if x = a then c else m x := by
  split_ifs with h
  · rw [h, write, BitVec.sub_self]
    rfl
  · have hx : x ∉ cells a 1 := fun hx => h (cells_one.subset hx)
    exact write_of_notMem hx

theorem write_add {i : ℕ} (hi : i < bs.length) (hw : bs.length ≤ 2 ^ w) :
    m.write a bs (a + BitVec.ofNat w i) = bs[i] := by
  rw [write, add_sub_cancel_ofNat, BitVec.toNat_ofNat, Nat.mod_eq_of_lt (hi.trans_le hw),
    List.getElem?_eq_getElem hi, Option.getD_some]

theorem read_write (hw : bs.length ≤ 2 ^ w) : (m.write a bs).read a bs.length = bs := by
  refine List.ext_getElem length_read fun i _ hi => ?_
  simp only [read, List.getElem_map, List.getElem_range]
  exact write_add hi hw

theorem read_write_of_disjoint (h : Disjoint (cells b n) (cells a bs.length)) :
    (m.write a bs).read b n = m.read b n :=
  read_congr fun _ hx => write_of_notMem fun hx' => Set.disjoint_left.mp h hx hx'

end Store

end Bytes
