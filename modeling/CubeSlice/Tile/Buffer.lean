import CubeSlice.DType

/-!
# Buffers

A buffer is a flat row of elements of one type. Whatever is stored is rounded to the type, so every
cell is a fixed point of that rounding.
-/

namespace CubeSlice

structure Buffer (dtype : DType) where
  cells : Array Number
  rounded : ∀ i (h : i < cells.size), dtype.round cells[i] = cells[i]

namespace Buffer

variable {dtype : DType}

def size (b : Buffer dtype) : Nat := b.cells.size

def zeros (dtype : DType) (size : Nat) : Buffer dtype where
  cells := Array.replicate size Number.zero
  rounded i h := by simp [DType.round_zero]

def ofArray (dtype : DType) (values : Array Number) : Buffer dtype where
  cells := values.map dtype.round
  rounded i h := by simp

def set (b : Buffer dtype) (i : Nat) (x : Number) : Buffer dtype where
  cells := b.cells.setIfInBounds i (dtype.round x)
  rounded j h := by
    have hj : j < b.cells.size := by simpa using h
    rw [Array.getElem_setIfInBounds hj]
    split
    · exact dtype.round_round x
    · exact b.rounded j hj

/-- Stores a number at a position; between the cells and outside of them nothing happens. -/
def setAt (b : Buffer dtype) (position x : Number) : Buffer dtype :=
  match position.index? with
  | some i => b.set i x
  | none => b

@[simp] theorem size_zeros (n : Nat) : (zeros dtype n).size = n := by simp [size, zeros]

@[simp] theorem size_ofArray (values : Array Number) :
    (ofArray dtype values).size = values.size := by simp [size, ofArray]

@[simp] theorem size_set (b : Buffer dtype) (i : Nat) (x : Number) : (b.set i x).size = b.size := by
  simp [size, set]

@[simp] theorem size_setAt (b : Buffer dtype) (position x : Number) :
    (b.setAt position x).size = b.size := by
  unfold setAt
  split <;> simp

def get? (b : Buffer dtype) (i : Nat) : Option Number := b.cells[i]?

end Buffer

end CubeSlice
