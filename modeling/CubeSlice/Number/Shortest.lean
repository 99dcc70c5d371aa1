import CubeSlice.Number.Arithmetic
import CubeSlice.Number.Decimal

/-!
# Shortest text

The text of a number has the fewest digits that read back as that number, and of those the digits
nearest to its value. Decimals of `k` digits form a grid; if any point of it reads back, one of the
two neighbours of the value does, so that only those are tried for `k = 1, …, 17`.
-/

namespace CubeSlice.Number

structure Decimal where
  digits : Nat
  exponent : Int
  deriving DecidableEq, Repr

def Decimal.read (d : Decimal) (negative : Bool) : Number :=
  ofDecimal negative d.digits d.exponent

def decimalUnits (n : Nat) : Nat := n * Nat.pow 5 unitExponent

/-- The magnitude `m` in units of `10 ^ -1074` cut to the grid of decimals with `k` digits: the
multiple of `10 ^ (count - k)` not above it. -/
def gridFloor (m count k : Nat) : Nat := m / tenTo (count - k)

def gridPoint (digits count k : Nat) : Decimal :=
  ⟨digits, ((count - k : Nat) : Int) - unitExponent⟩

/-- The neighbour of `m` on the grid of `k` digits that reads back as `x`: the nearer where both do,
and of two equally near the even one. -/
def gridHit? (x : Number) (m count k : Nat) : Option Decimal :=
  let low := gridFloor m count k
  let step := tenTo (count - k)
  let rest := m % step
  let below := gridPoint low count k
  let above := gridPoint (low + 1) count k
  let belowFirst := 2 * rest < step ∨ (2 * rest = step ∧ low % 2 = 0)
  let candidates := if belowFirst then [below, above] else [above, below]
  candidates.find? fun d => d.read x.isNegative == x

/-- The shortest decimal that reads back as a finite number of magnitude `n`. -/
def shortest (x : Number) (n : Nat) : Decimal :=
  let m := decimalUnits n
  let count := digitCount m
  ((List.range' 1 17).findSome? (gridHit? x m count)).getD (gridPoint m count count)

def significantDigits (n : Nat) : List Char :=
  ((Nat.toDigits 10 n).reverse.dropWhile (· == '0')).reverse

/-- How a number is written: plain from `10 ^ -6` up to `10 ^ 21`, else with an exponent.
`point` is the place of the decimal point relative to the first digit. -/
def layoutDigits (digits : List Char) (point : Int) : String :=
  let count : Int := digits.length
  if count ≤ point ∧ point ≤ 21 then
    String.ofList (digits ++ List.replicate (point - count).toNat '0')
  else if 0 < point ∧ point ≤ 21 then
    String.ofList (digits.take point.toNat ++ '.' :: digits.drop point.toNat)
  else if -6 < point ∧ point ≤ 0 then
    String.ofList ('0' :: '.' :: (List.replicate (-point).toNat '0' ++ digits))
  else
    let e := point - 1
    let mark := if e < 0 then "e-" else "e+"
    let head := match digits with
      | [] => ""
      | [d] => d.toString
      | d :: rest => String.ofList (d :: '.' :: rest)
    head ++ mark ++ toString e.natAbs

def Decimal.text (d : Decimal) : String :=
  layoutDigits (significantDigits d.digits) ((Nat.toDigits 10 d.digits).length + d.exponent)

/-- The text of a magnitude. A safe integer is its own shortest decimal. -/
def magnitudeText (n : Nat) (x : Number) : String :=
  if n % unitsInOne = 0 ∧ n / unitsInOne ≤ maxSafe then
    toString (n / unitsInOne)
  else
    (shortest x n).text

/-- The text of a number; both zeros are written `0`. -/
def text (x : Number) : String :=
  match x with
  | nan => "NaN"
  | infinite negative => if negative then "-Infinity" else "Infinity"
  | finite negative n _ =>
    if n = 0 then "0" else (if negative then "-" else "") ++ magnitudeText n x

end CubeSlice.Number
