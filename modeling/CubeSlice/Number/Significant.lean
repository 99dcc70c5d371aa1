import CubeSlice.Number.Shortest

/-!
# Six significant digits

`Number.sixDigits` cuts the exact decimal value of a number to six significant digits, a half going
away from zero, and takes the number nearest to the result.
-/

namespace CubeSlice.Number

def leadingSix (n : Nat) : Decimal :=
  let m := decimalUnits n
  let count := digitCount m
  let step := tenTo (count - 6)
  gridPoint ((2 * m + step) / (2 * step)) count 6

def sixDigits : Number → Number
  | finite negative n held =>
    if n = 0 then finite negative n held else (leadingSix n).read negative
  | x => x

end CubeSlice.Number
