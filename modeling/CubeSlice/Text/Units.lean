/-!
# Code units

Lengths of texts in units of sixteen bits: a character from U+10000 on takes two of them.
-/

namespace CubeSlice.Text

def unitsOf (c : Char) : Nat := if c.toNat < 0x10000 then 1 else 2

def unitCount : List Char → Nat
  | [] => 0
  | c :: cs => unitsOf c + unitCount cs

/-- The start of a text that fills a number of units; of a character that does not fit in, U+FFFD is
left. -/
def takeUnits (count : Nat) : List Char → List Char
  | [] => []
  | c :: cs =>
    if count = 0 then []
    else if unitsOf c ≤ count then c :: takeUnits (count - unitsOf c) cs
    else ['\uFFFD']

end CubeSlice.Text
