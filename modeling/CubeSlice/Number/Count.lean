import CubeSlice.Number.Basic

/-!
# Counts

Offsets and lengths: safe integers that are not negative. A count keeps the number that it was read
from, which may be the negative zero.
-/

namespace CubeSlice

structure Count where
  number : Number
  isSafe : number.isSafeInteger = true
  notNegative : number.lt Number.zero = false

namespace Count

def toNat (c : Count) : Nat := c.number.toNat

def ofNumber? (x : Number) : Option Count :=
  if h : x.isSafeInteger = true ∧ x.lt Number.zero = false then some ⟨x, h.1, h.2⟩ else none

theorem ofNumber?_number (c : Count) : ofNumber? c.number = some c := by
  unfold ofNumber?
  rw [dif_pos ⟨c.isSafe, c.notNegative⟩]

end Count

end CubeSlice
