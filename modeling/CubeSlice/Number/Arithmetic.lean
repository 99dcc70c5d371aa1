import CubeSlice.Number.Basic

/-!
# Arithmetic

Each operation takes the exact result of its operands and rounds it once. The exact results are
integers in units: sums directly, products over `2 ^ 1074`, quotients after scaling the dividend.
-/

namespace CubeSlice.Number

/-- A sum is zero with a minus sign only when both operands carry one. -/
def add : Number → Number → Number
  | nan, _ => nan
  | _, nan => nan
  | infinite a, infinite b => if a = b then infinite a else nan
  | infinite a, finite _ _ _ => infinite a
  | finite _ _ _, infinite b => infinite b
  | finite a m _, finite b n _ =>
    let sum := signed a m + signed b n
    if sum = 0 then ofUnits (a && b) 0 else ofUnits (sum < 0) sum.natAbs

def neg : Number → Number
  | nan => nan
  | infinite a => infinite (!a)
  | finite a n h => finite (!a) n h

def sub (x y : Number) : Number := x.add y.neg

def mul : Number → Number → Number
  | nan, _ => nan
  | _, nan => nan
  | infinite a, infinite b => infinite (a ^^ b)
  | infinite a, finite b n _ => if n = 0 then nan else infinite (a ^^ b)
  | finite a m _, infinite b => if m = 0 then nan else infinite (a ^^ b)
  | finite a m _, finite b n _ => ofRatio (a ^^ b) (m * n) unitsInOne

def div : Number → Number → Number
  | nan, _ => nan
  | _, nan => nan
  | infinite _, infinite _ => nan
  | infinite a, finite b _ _ => infinite (a ^^ b)
  | finite a _ _, infinite b => ofUnits (a ^^ b) 0
  | finite a m _, finite b n _ =>
    if n = 0 then
      if m = 0 then nan else infinite (a ^^ b)
    else
      ofRatio (a ^^ b) (m * unitsInOne) n

def floor : Number → Number
  | finite negative n _ =>
    let whole := n / unitsInOne
    if negative && n % unitsInOne != 0 then
      ofUnits true ((whole + 1) * unitsInOne)
    else
      ofUnits negative (whole * unitsInOne)
  | x => x

/-- How many natural numbers lie below; an infinite bound counts as none. -/
def naturalsBelow (x : Number) : Nat :=
  match x.toInt? with
  | some i => i.toNat
  | none =>
    match x.floor.toInt? with
    | some i => (i + 1).toNat
    | none => 0

instance : Add Number := ⟨add⟩
instance : Sub Number := ⟨sub⟩
instance : Mul Number := ⟨mul⟩
instance : Div Number := ⟨div⟩

end CubeSlice.Number
