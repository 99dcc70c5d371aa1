import CubeSlice.Number.Decimal

/-!
# Number literals

The decimal literals of data texts: an optional minus sign, an integer part without leading zeros,
an optional fraction and an optional exponent. The digits are read as one exact decimal and rounded
once.
-/

namespace CubeSlice.Number

def isWholePart : List Char → Bool
  | [] => false
  | ['0'] => true
  | c :: rest => c != '0' && (c :: rest).all Char.isDigit

def readExponent? : List Char → Option Int
  | '-' :: digits => read true digits
  | '+' :: digits => read false digits
  | digits => read false digits
where
  read (negative : Bool) (digits : List Char) : Option Int :=
    if digits.isEmpty || !digits.all Char.isDigit then none
    else if negative then some (-(digitsValue digits : Int)) else some (digitsValue digits)

def readTail? : List Char → Option (List Char × Int)
  | [] => some ([], 0)
  | '.' :: rest =>
    let fraction := rest.takeWhile Char.isDigit
    if fraction.isEmpty then none
    else match rest.dropWhile Char.isDigit with
      | [] => some (fraction, 0)
      | c :: exponent =>
        if c = 'e' ∨ c = 'E' then (readExponent? exponent).map (fraction, ·) else none
  | c :: exponent =>
    if c = 'e' ∨ c = 'E' then (readExponent? exponent).map ([], ·) else none

def readUnsigned? (negative : Bool) (cs : List Char) : Option Number :=
  let whole := cs.takeWhile Char.isDigit
  if isWholePart whole then
    (readTail? (cs.dropWhile Char.isDigit)).map fun (fraction, exponent) =>
      ofDecimal negative (digitsValue (whole ++ fraction)) (exponent - fraction.length)
  else
    none

def ofLiteral? : List Char → Option Number
  | '-' :: cs => readUnsigned? true cs
  | cs => readUnsigned? false cs

def ofDigits (negative : Bool) (digits : List Char) : Number :=
  ofDecimal negative (digitsValue digits) 0

end CubeSlice.Number
