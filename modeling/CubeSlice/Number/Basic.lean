import CubeSlice.Number.Format

/-!
# Numbers

A `Number` is a binary64 value: not-a-number, a signed infinity, or a sign and a magnitude in units
of `2 ^ -1074` that binary64 holds exactly. The two zeros are different numbers that compare equal.
-/

namespace CubeSlice

def unitExponent : Nat := 1074

def unitsInOne : Nat := twoTo unitExponent

theorem unitsInOne_pos : 0 < unitsInOne := twoTo_pos unitExponent

/-- The greatest integer below which every integer is a number: `2 ^ 53 - 1`. -/
def maxSafe : Nat := 9007199254740991

inductive Number where
  | nan
  | infinite (negative : Bool)
  | finite (negative : Bool) (units : Nat) (held : Format.binary64.Holds units)
  deriving DecidableEq

namespace Number

def zero : Number := finite false 0 (Format.holds_zero _)

def negativeZero : Number := finite true 0 (Format.holds_zero _)

instance : Inhabited Number := ⟨zero⟩

/-- The number nearest to `num / den` units under the given sign; magnitudes from `2 ^ 1024` on
are infinite. -/
def ofRatio (negative : Bool) (num den : Nat) : Number :=
  if h : Format.binary64.round num den < twoTo Format.binary64.ceiling then
    finite negative (Format.binary64.round num den) ⟨h, Format.onGrid_round _ _ _⟩
  else
    infinite negative

def ofUnits (negative : Bool) (n : Nat) : Number :=
  ofRatio negative n 1

theorem ofRatio_of_holds (negative : Bool) {n : Nat} (h : Format.binary64.Holds n) {den : Nat}
    (hden : 0 < den) : ofRatio negative (n * den) den = finite negative n h := by
  unfold ofRatio
  rw [dif_pos (by rw [Format.round_of_onGrid h.2 hden]; exact h.1)]
  simp [Format.round_of_onGrid h.2 hden]

theorem ofUnits_of_holds (negative : Bool) {n : Nat} (h : Format.binary64.Holds n) :
    ofUnits negative n = finite negative n h := by
  have := ofRatio_of_holds negative h Nat.one_pos
  rwa [Nat.mul_one] at this

def ofNat (n : Nat) : Number :=
  ofUnits false (n * unitsInOne)

def ofInt (i : Int) : Number :=
  ofUnits (i < 0) (i.natAbs * unitsInOne)

/-- The integer that a number is, if it is one; both zeros are `0`. -/
def toInt? : Number → Option Int
  | finite negative n _ =>
    if n % unitsInOne = 0 then
      some (if negative then -((n / unitsInOne : Nat) : Int) else ((n / unitsInOne : Nat) : Int))
    else
      none
  | _ => none

/-- The natural number that a number is, if it is one; both zeros are `0`. -/
def index? (x : Number) : Option Nat :=
  match x.toInt? with
  | some i => if 0 ≤ i then some i.toNat else none
  | none => none

def toNat (x : Number) : Nat := (x.toInt?.getD 0).toNat

def isInteger (x : Number) : Bool := x.toInt?.isSome

def whole : Number → Int
  | finite negative n _ =>
    if negative then -((n / unitsInOne : Nat) : Int) else ((n / unitsInOne : Nat) : Int)
  | _ => 0

/-- An integer of magnitude at most `2 ^ 53 - 1`. -/
def isSafeInteger (x : Number) : Bool :=
  match x.toInt? with
  | some i => i.natAbs ≤ maxSafe
  | none => false

def isNaN (x : Number) : Bool := x == nan

def isZero : Number → Bool
  | finite _ n _ => n == 0
  | _ => false

def isNegative : Number → Bool
  | nan => false
  | infinite negative => negative
  | finite negative _ _ => negative

def signed (negative : Bool) (n : Nat) : Int :=
  if negative then -(n : Int) else n

/-- Strict order of values; false as soon as one side is not-a-number. -/
def lt : Number → Number → Bool
  | nan, _ => false
  | _, nan => false
  | infinite a, infinite b => a && !b
  | infinite a, finite _ _ _ => a
  | finite _ _ _, infinite b => !b
  | finite a m _, finite b n _ => signed a m < signed b n

def le : Number → Number → Bool
  | nan, _ => false
  | _, nan => false
  | infinite a, infinite b => a || !b
  | infinite a, finite _ _ _ => a
  | finite _ _ _, infinite b => !b
  | finite a m _, finite b n _ => signed a m ≤ signed b n

end Number

end CubeSlice
