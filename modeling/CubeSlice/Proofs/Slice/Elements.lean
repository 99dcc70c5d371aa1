import CubeSlice.Slice.Basic
import Mathlib.Data.List.FinRange
import Mathlib.Data.List.Nodup

/-!
# Elements of slices

The elements of a slice, row by row. Transposing a slice keeps its elements and only moves them.
-/

namespace CubeSlice

theorem eq_of_mul_add_eq {a b c d n : Nat} (hb : b < n) (hd : d < n) (h : a * n + b = c * n + d) :
    a = c ∧ b = d := by
  have hLess {a c : Nat} (hac : a < c) : a * n + n ≤ c * n := by
    rw [← Nat.succ_mul]
    exact Nat.mul_le_mul_right n hac
  rcases Nat.lt_trichotomy a c with hac | rfl | hac
  · have := hLess hac
    omega
  · omega
  · have := hLess hac
    omega

theorem mul_add_div_of_lt {a b n : Nat} (h : b < n) : (a * n + b) / n = a := by
  rw [Nat.mul_comm, Nat.mul_add_div (Nat.zero_lt_of_lt h), Nat.div_eq_of_lt h, Nat.add_zero]

namespace Slice

variable (s : Slice)

theorem size_cells : s.data.cells.size = s.rows * s.cols := s.size_eq

theorem length_toList : s.toList.length = s.rows * s.cols := s.size_eq

theorem length_rowValues {i : Nat} (hi : i < s.rows) : (s.rowValues i).length = s.cols := by
  have hEnd : i * s.cols + s.cols ≤ s.data.cells.size := by
    rw [s.size_cells, ← Nat.succ_mul]
    exact Nat.mul_le_mul_right _ hi
  rw [rowValues, Array.length_toList, Array.size_extract]
  omega

theorem getElem?_rowValues {i j : Nat} (hi : i < s.rows) (hj : j < s.cols) :
    (s.rowValues i)[j]? = some (s.get i j hi hj) := by
  have hOffset : i * s.cols + j < s.data.cells.size := by
    rw [s.size_cells]
    exact s.extent.offset_lt hi hj
  rw [rowValues, Array.getElem?_toList, Array.getElem?_extract_of_lt (by omega)]
  rfl

theorem length_toRows : s.toRows.length = s.rows := by rw [toRows, List.length_map, List.length_range]

theorem getElem?_toRows {i : Nat} (hi : i < s.rows) : s.toRows[i]? = some (s.rowValues i) := by
  rw [toRows, List.getElem?_map, List.getElem?_range hi]
  rfl

def turned (k : Fin (s.cols * s.rows)) : Fin s.data.cells.size :=
  ⟨k % s.rows * s.cols + k / s.rows, by
    rw [s.size_cells]
    exact s.extent.offset_lt (Nat.mod_lt _ s.extent.rows_pos)
      (Nat.div_lt_of_lt_mul (Nat.lt_of_lt_of_eq k.isLt (Nat.mul_comm _ _)))⟩

theorem turned_injective : Function.Injective s.turned := by
  intro k l h
  have hCol (k : Fin (s.cols * s.rows)) : k / s.rows < s.cols :=
    Nat.div_lt_of_lt_mul (Nat.lt_of_lt_of_eq k.isLt (Nat.mul_comm _ _))
  obtain ⟨hRem, hQuot⟩ := eq_of_mul_add_eq (hCol k) (hCol l) (congrArg Fin.val h)
  apply Fin.ext
  rw [← Nat.div_add_mod k s.rows, ← Nat.div_add_mod l s.rows, hRem, hQuot]

theorem turned_surjective : Function.Surjective s.turned := by
  intro o
  have hRow : o / s.cols < s.rows := by
    apply Nat.div_lt_of_lt_mul
    rw [Nat.mul_comm, ← s.size_cells]
    exact o.isLt
  have hCol : o % s.cols < s.cols := Nat.mod_lt _ s.extent.cols_pos
  refine ⟨⟨o % s.cols * s.rows + o / s.cols, mul_add_lt hCol hRow⟩, Fin.ext ?_⟩
  show (o % s.cols * s.rows + o / s.cols) % s.rows * s.cols + (o % s.cols * s.rows + o / s.cols) / s.rows = o
  rw [Nat.mul_add_mod_of_lt hRow, mul_add_div_of_lt hRow, Nat.mul_comm, Nat.div_add_mod]

theorem toList_eq_map : s.toList = (List.finRange s.data.cells.size).map fun o => s.data.cells[o] := by
  rw [← List.ofFn_eq_map, ← Array.toList_ofFn]
  exact congrArg Array.toList Array.ofFn_getElem.symm

theorem toList_transpose : s.transpose.toList =
    ((List.finRange (s.cols * s.rows)).map s.turned).map fun o => s.data.cells[o] := by
  rw [List.map_map, ← List.ofFn_eq_map, ← Array.toList_ofFn]
  rfl

theorem perm_toList_transpose : s.transpose.toList.Perm s.toList := by
  rw [toList_transpose, toList_eq_map]
  apply List.Perm.map
  apply (List.perm_ext_iff_of_nodup ((List.nodup_finRange _).map s.turned_injective) (List.nodup_finRange _)).mpr
  intro o
  obtain ⟨k, hk⟩ := s.turned_surjective o
  have hSome : o ∈ (List.finRange (s.cols * s.rows)).map s.turned := by
    rw [← hk]
    exact List.mem_map_of_mem (List.mem_finRange k)
  exact iff_of_true hSome (List.mem_finRange o)

end Slice

end CubeSlice
