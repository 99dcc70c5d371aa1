import CubeSlice.Slice.Extent
import CubeSlice.Tile.Buffer

/-!
# Slices

A slice is a dense row-major matrix. Its elements are read by row and column; indices are numbers,
and one that is no integer below its dimension is refused.
-/

namespace CubeSlice

structure Slice where
  extent : Extent
  dtype : DType
  data : Buffer dtype
  size_eq : data.size = extent.size

namespace Slice

inductive Axis where
  | row
  | column
  deriving DecidableEq, Repr

def Axis.name : Axis → String
  | row => "row"
  | column => "column"

structure IndexError where
  axis : Axis
  index : Number
  limit : Nat

namespace IndexError

def stop (e : IndexError) : Number := e.index + Number.ofNat 1

def message (e : IndexError) : String :=
  e.axis.name ++ " index " ++ e.index.text ++ " out of range [0, " ++ toString e.limit ++ ")"

end IndexError

inductive ShapeError where
  | notDimensions (rows cols : Json.Value)
  | dataLength
  | untold

def ShapeError.message : ShapeError → WideText
  | notDimensions rows cols =>
    "Slice shape must be positive integers, got [" ++ (Json.Value.array [rows, cols]).display ++ "]"
  | dataLength => "Slice data length does not match shape"
  | untold => Json.Value.untold

def ofData (rows cols : Json.Value) (dtype : DType) (values : Array Number) :
    Except ShapeError Slice :=
  match Extent.ofDimensions rows cols with
  | .error (.notDimensions rows cols) => .error (.notDimensions rows cols)
  | .error (.tooLarge ..) => .error .dataLength
  | .error .untold => .error .untold
  | .ok extent =>
    if h : values.size = extent.size then
      .ok ⟨extent, dtype, Buffer.ofArray dtype values, by simpa using h⟩
    else
      .error .dataLength

def rows (s : Slice) : Nat := s.extent.rows

def cols (s : Slice) : Nat := s.extent.cols

def size (s : Slice) : Nat := s.data.size

def shape (s : Slice) : List Number := s.extent.shape

def strides (s : Slice) : List Number := Shape.strides s.shape

def get (s : Slice) (i j : Nat) (hi : i < s.rows) (hj : j < s.cols) : Number :=
  have h : i * s.cols + j < s.data.cells.size :=
    Nat.lt_of_lt_of_eq (s.extent.offset_lt hi hj) s.size_eq.symm
  s.data.cells[i * s.cols + j]

theorem toNat_lt_of_inside {i : Int} {limit : Nat} (h : 0 ≤ i ∧ i < limit) : i.toNat < limit := by
  omega

def index? (index : Number) (limit : Nat) : Option (Fin limit) :=
  match index.toInt? with
  | some i => if h : 0 ≤ i ∧ i < limit then some ⟨i.toNat, toNat_lt_of_inside h⟩ else none
  | none => none

def checkIndex (axis : Axis) (index : Number) (limit : Nat) : Except IndexError (Fin limit) :=
  match index? index limit with
  | some i => .ok i
  | none => .error ⟨axis, index, limit⟩

/-- The element at the given indices; the row is looked at first. -/
def at? (s : Slice) (i j : Number) : Except IndexError Number := do
  let row ← checkIndex .row i s.rows
  let column ← checkIndex .column j s.cols
  return s.get row column row.isLt column.isLt

def rowValues (s : Slice) (i : Nat) : List Number :=
  (s.data.cells.extract (i * s.cols) (i * s.cols + s.cols)).toList

def row? (s : Slice) (i : Number) : Except IndexError (List Number) := do
  let row ← checkIndex .row i s.rows
  return s.rowValues row

def toRows (s : Slice) : List (List Number) := (List.range s.rows).map s.rowValues

def toList (s : Slice) : List Number := s.data.cells.toList

def transposedCells (s : Slice) : Array Number :=
  Array.ofFn fun k : Fin (s.cols * s.rows) =>
    s.get (k % s.rows) (k / s.rows) (Nat.mod_lt _ s.extent.rows_pos)
      (Nat.div_lt_of_lt_mul (Nat.lt_of_lt_of_eq k.isLt (Nat.mul_comm _ _)))

def transpose (s : Slice) : Slice where
  extent := s.extent.swap
  dtype := s.dtype
  data := {
    cells := s.transposedCells
    rounded := fun i h => by
      simp only [transposedCells, Array.getElem_ofFn, get]
      exact s.data.rounded _ _ }
  size_eq := by simp [Buffer.size, transposedCells, Extent.size, Extent.swap, rows, cols]

variable (s : Slice)

theorem get?_transpose {o : Nat} (h : o < s.rows * s.cols) :
    s.transpose.data.get? o = s.data.get? (o % s.rows * s.cols + o / s.rows) := by
  have hOut : o < s.cols * s.rows := Nat.lt_of_lt_of_eq h (Nat.mul_comm _ _)
  have hIn : o % s.rows * s.cols + o / s.rows < s.data.cells.size :=
    Nat.lt_of_lt_of_eq (s.extent.offset_lt (Nat.mod_lt _ s.extent.rows_pos)
      (Nat.div_lt_of_lt_mul h)) s.size_eq.symm
  have hSize : o < s.transposedCells.size := by simpa [transposedCells] using hOut
  have hElement : s.transposedCells[o] = s.data.cells[o % s.rows * s.cols + o / s.rows] := by
    simp only [transposedCells, Array.getElem_ofFn, get]
  calc
    s.transpose.data.get? o = some s.transposedCells[o] := Array.getElem?_eq_getElem hSize
    _ = some s.data.cells[o % s.rows * s.cols + o / s.rows] := congrArg some hElement
    _ = s.data.get? (o % s.rows * s.cols + o / s.rows) := (Array.getElem?_eq_getElem hIn).symm

theorem rows_le_maxSafe : s.rows ≤ maxSafe := s.extent.rows_le_maxSafe

theorem cols_le_maxSafe : s.cols ≤ maxSafe := s.extent.cols_le_maxSafe

theorem checkIndex_of_index? (axis : Axis) {x : Number} {i limit : Nat} (hIndex : x.index? = some i)
    (hi : i < limit) : checkIndex axis x limit = .ok ⟨i, hi⟩ := by
  have hInside : 0 ≤ (i : Int) ∧ (i : Int) < limit := by omega
  simp only [checkIndex, index?, Number.toInt?_of_index? hIndex, dif_pos hInside, Int.toNat_natCast]

theorem index?_ofNat_of_lt {i limit : Nat} (hi : i < limit) (hLimit : limit ≤ maxSafe) :
    (Number.ofNat i).index? = some i := by
  apply Number.index?_ofNat
  apply Number.le_exactLimit
  exact Nat.le_of_lt (Nat.lt_of_lt_of_le hi hLimit)

theorem at?_ofNat {i j : Nat} (hi : i < s.rows) (hj : j < s.cols) :
    s.at? (Number.ofNat i) (Number.ofNat j) = .ok (s.get i j hi hj) := by
  have hRow := index?_ofNat_of_lt hi s.rows_le_maxSafe
  have hColumn := index?_ofNat_of_lt hj s.cols_le_maxSafe
  rw [at?, checkIndex_of_index? .row hRow hi, checkIndex_of_index? .column hColumn hj]
  rfl

end Slice

end CubeSlice
