import CubeSlice.Number.Arithmetic

/-!
# Interchange encodings

The bits of a number in a binary format: sign, biased exponent, fraction. A magnitude `n` with
spacing exponent `e` has the significand `n / 2 ^ e`; its leading bit, when there is one, carries
into the exponent field, so that one sum serves normal and subnormal numbers alike.
-/

namespace CubeSlice

namespace Format

def byteCount (f : Format) : Nat := if f.precision = 24 then 4 else 8

def fractionBits (f : Format) : Nat := f.precision - 1

def magnitudeBits (f : Format) : Nat := 8 * f.byteCount - 1

def infinityBits (f : Format) : Nat :=
  twoTo f.magnitudeBits - twoTo f.fractionBits

def quietBits (f : Format) : Nat := f.infinityBits + twoTo (f.fractionBits - 1)

/-- A word with all bits of the exponent set and a fraction other than zero; its sign does not count. -/
def IsNaNWord (f : Format) (bits : Nat) : Prop :=
  bits < twoTo (f.magnitudeBits + 1) ∧ f.infinityBits < bits % twoTo f.magnitudeBits

instance (f : Format) (bits : Nat) : Decidable (f.IsNaNWord bits) := inferInstanceAs (Decidable (_ ∧ _))

def encode (f : Format) (n : Nat) : Nat :=
  let e := f.spacing n
  (e - f.grain) * twoTo f.fractionBits + n / twoTo e

end Format

namespace Number

def withSign (f : Format) (negative : Bool) (bits : Nat) : Nat :=
  if negative then twoTo f.magnitudeBits + bits else bits

/-- The bits of a number whose magnitude is on the grid of `f`, given those of not-a-number. -/
def toBits (f : Format) (nanWord : Nat) : Number → Nat
  | nan => nanWord
  | infinite negative => withSign f negative f.infinityBits
  | finite negative n _ => withSign f negative (f.encode n)

end Number

/-- The lowest `count` bytes of a natural number, least significant first. -/
def littleEndian : Nat → Nat → List UInt8
  | 0, _ => []
  | count + 1, n => UInt8.ofNat (n % 256) :: littleEndian count (n / 256)

end CubeSlice
