import CubeSlice.Json.Value
import CubeSlice.Shape

/-!
# Extents

The extent of a slice: how many rows and columns it has, at least one of each and together no more
than the greatest safe integer.
-/

namespace CubeSlice

theorem mul_add_lt {a b m n : Nat} (ha : a < m) (hb : b < n) : a * n + b < m * n := by
  calc
    a * n + b < a * n + n := Nat.add_lt_add_left hb _
    _ = (a + 1) * n := (Nat.succ_mul a n).symm
    _ ≤ m * n := Nat.mul_le_mul_right n ha

structure Extent where
  rows : Nat
  cols : Nat
  rows_pos : 0 < rows
  cols_pos : 0 < cols
  size_safe : rows * cols ≤ maxSafe
  deriving DecidableEq

namespace Extent

def size (e : Extent) : Nat := e.rows * e.cols

def swap (e : Extent) : Extent where
  rows := e.cols
  cols := e.rows
  rows_pos := e.cols_pos
  cols_pos := e.rows_pos
  size_safe := Nat.mul_comm e.cols e.rows ▸ e.size_safe

theorem size_swap (e : Extent) : e.swap.size = e.size := Nat.mul_comm _ _

theorem rows_le_size (e : Extent) : e.rows ≤ e.size := Nat.le_mul_of_pos_right _ e.cols_pos

theorem cols_le_size (e : Extent) : e.cols ≤ e.size := Nat.le_mul_of_pos_left _ e.rows_pos

theorem rows_le_maxSafe (e : Extent) : e.rows ≤ maxSafe := Nat.le_trans e.rows_le_size e.size_safe

theorem cols_le_maxSafe (e : Extent) : e.cols ≤ maxSafe := Nat.le_trans e.cols_le_size e.size_safe

theorem offset_lt (e : Extent) {i j : Nat} (hi : i < e.rows) (hj : j < e.cols) :
    i * e.cols + j < e.size := mul_add_lt hi hj

def shape (e : Extent) : List Number := [Number.ofNat e.rows, Number.ofNat e.cols]

inductive Error where
  | notDimensions (rows cols : Json.Value)
  | tooLarge (rows cols : Nat)
  | untold

def Error.ofValues (rows cols : Json.Value) : Error :=
  if rows.isTellable && cols.isTellable then notDimensions rows cols else untold

theorem toNat_pos {x : Number} (h : x.isDimension = true) : 0 < x.toNat := by
  obtain ⟨n, hIndex, hPos, -⟩ := Number.isDimension_iff.mp h
  rwa [Number.toNat_of_index? hIndex]

/-- The rounded product of two dimensions is safe only if their exact product is. -/
theorem toNat_mul_le {x y : Number} (hx : x.isDimension = true) (hy : y.isDimension = true)
    (h : (x * y).isSafeInteger = true) : x.toNat * y.toNat ≤ maxSafe := by
  obtain ⟨m, hRows, -⟩ := Number.isDimension_iff.mp hx
  obtain ⟨n, hCols, -⟩ := Number.isDimension_iff.mp hy
  rw [Number.toNat_of_index? hRows, Number.toNat_of_index? hCols]
  exact (Number.isSafeInteger_iff_of_keeps (Number.keeps_mul hRows hCols)).mp h

/-- The extent with two dimensions, whose product is checked in rounded arithmetic. -/
def ofDimensions (rows cols : Json.Value) : Except Error Extent :=
  match rows, cols with
  | .number x, .number y =>
    if h : x.isDimension = true ∧ y.isDimension = true then
      if hs : (x * y).isSafeInteger = true then
        .ok ⟨x.toNat, y.toNat, toNat_pos h.1, toNat_pos h.2, toNat_mul_le h.1 h.2 hs⟩
      else
        .error (.tooLarge x.toNat y.toNat)
    else
      .error (.ofValues rows cols)
  | _, _ => .error (.ofValues rows cols)

end Extent

end CubeSlice
