import Mathlib.Data.List.Basic
import Mathlib.Tactic.Common

/-! # Slices of byte strings

Slices of slices and neighbouring slices, as half-open ranges of one list.
-/

namespace Bytes

variable {α : Type} (bs : List α)

theorem take_extract (i j k : ℕ) (h : i + k ≤ j) :
    (bs.extract i j).take k = bs.extract i (i + k) := by
  simp only [List.extract_eq_take_drop, List.take_take]
  congr 1
  omega

theorem extract_extract (i j k l : ℕ) (h : i + l ≤ j) :
    (bs.extract i j).extract k l = bs.extract (i + k) (i + l) := by
  simp only [List.extract_eq_take_drop, List.drop_take, List.drop_drop, List.take_take]
  congr 1
  omega

theorem length_extract {i j : ℕ} (h : j ≤ bs.length) : (bs.extract i j).length = j - i := by
  simp only [List.extract_eq_take_drop, List.length_take, List.length_drop]
  omega

theorem extract_append_extract {i j k : ℕ} (hij : i ≤ j) (hjk : j ≤ k) :
    bs.extract i j ++ bs.extract j k = bs.extract i k := by
  have hj : bs.drop j = (bs.drop i).drop (j - i) := by rw [List.drop_drop]; congr 1; omega
  have hk : k - i = (j - i) + (k - j) := by omega
  simp only [List.extract_eq_take_drop, hj, hk, List.take_add]

theorem extract_append_right {as : List α} {i j : ℕ} (hi : as.length ≤ i) :
    (as ++ bs).extract i j = bs.extract (i - as.length) (j - as.length) := by
  simp only [List.extract_eq_take_drop, List.drop_append, List.drop_eq_nil_of_le hi,
    List.nil_append]
  congr 1
  omega

theorem extract_append_left {as : List α} {i j : ℕ} (hj : j ≤ as.length) :
    (as ++ bs).extract i j = as.extract i j := by
  simp only [List.extract_eq_take_drop, List.drop_append]
  rw [List.take_append_of_le_length]
  simp only [List.length_drop]
  omega

/-- The part of a concatenation between what comes before and after it. -/
theorem extract_part {as cs : List α} {i j : ℕ} (hi : as.length = i)
    (hj : i + bs.length = j) : (as ++ (bs ++ cs)).extract i j = bs := by
  subst hi hj
  rw [extract_append_right _ (Nat.le_refl _), extract_append_left _ (by omega)]
  simp

theorem extract_end {as : List α} {i j : ℕ} (hi : as.length = i) (hj : i + bs.length = j) :
    (as ++ bs).extract i j = bs := by
  rw [← List.append_nil bs, extract_part bs hi hj, List.append_nil]

end Bytes
