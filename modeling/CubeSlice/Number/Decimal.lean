import CubeSlice.Number.Basic

/-!
# Decimal values

`Number.ofDecimal` is the number nearest to `digits * 10 ^ exponent`. Exponents far outside the
range of binary64 are settled from the size of the digits alone, so that a text such as `1e999999`
costs no more than its length.
-/

namespace CubeSlice

namespace Number

def ofScientific (negative : Bool) (digits : Nat) : Int → Number
  | .ofNat e => ofUnits negative (digits * tenTo e * unitsInOne)
  | .negSucc e => ofRatio negative (digits * unitsInOne) (tenTo (e + 1))

/-- The number nearest to `digits * 10 ^ exponent` under the given sign. Past `10 ^ 400`
everything is infinite; below `10 ^ -400` everything is zero, and `digits` is less than ten to its
bit count. -/
def ofDecimal (negative : Bool) (digits : Nat) (exponent : Int) : Number :=
  if digits = 0 then
    ofUnits negative 0
  else if 400 < exponent then
    infinite negative
  else if exponent + (digits.log2 + 1 : Nat) < -400 then
    ofUnits negative 0
  else
    ofScientific negative digits exponent

end Number

def digitsValue (digits : List Char) : Nat :=
  digits.foldl (fun n c => n * 10 + (c.toNat - '0'.toNat)) 0

def digitCountFrom (n k : Nat) : Nat :=
  if tenTo k ≤ n then digitCountFrom n (k + 1) else k
termination_by n - k
decreasing_by
  have := lt_tenTo_self k
  omega

/-- How many decimal digits `n` has; `0` has none. Each bit is worth at least `1233 / 4096` of a
digit, which starts the count close to its end. -/
def digitCount (n : Nat) : Nat :=
  digitCountFrom n (n.log2 * 1233 / 4096)

end CubeSlice
