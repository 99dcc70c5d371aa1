/-!
# Wide texts

Texts as sequences of units of sixteen bits. A character from U+10000 on takes a high unit and a low
one; half of such a pair may also stand alone, and is no character then.
-/

namespace CubeSlice

structure WideText where
  units : List UInt16
  deriving DecidableEq, Inhabited

namespace WideText

/-- What a text consists of: characters, and single halves of pairs. -/
inductive Scalar where
  | char (c : Char)
  | half (u : UInt16)
  deriving DecidableEq

def isHigh (u : UInt16) : Bool := 0xD800 ≤ u.toNat && u.toNat < 0xDC00

def isLow (u : UInt16) : Bool := 0xDC00 ≤ u.toNat && u.toNat < 0xE000

def pair (high low : UInt16) : Char :=
  Char.ofNat (0x10000 + (high.toNat - 0xD800) * 0x400 + (low.toNat - 0xDC00))

def charUnits (c : Char) : List UInt16 :=
  if c.toNat < 0x10000 then [UInt16.ofNat c.toNat]
  else [UInt16.ofNat (0xD7C0 + c.toNat / 0x400), UInt16.ofNat (0xDC00 + c.toNat % 0x400)]

def Scalar.units : Scalar → List UInt16
  | char c => charUnits c
  | half u => [u]

def Scalar.ofUnit (u : UInt16) : Scalar :=
  if isHigh u || isLow u then half u else char (Char.ofNat u.toNat)

/-- Puts a unit in front; a high half joins the low half behind it. -/
def Scalar.push (u : UInt16) : List Scalar → List Scalar
  | half v :: rest => if isHigh u && isLow v then char (pair u v) :: rest else ofUnit u :: half v :: rest
  | rest => ofUnit u :: rest

def scalars (t : WideText) : List Scalar := t.units.foldr Scalar.push []

def ofString (s : String) : WideText := ⟨s.toList.flatMap charUnits⟩

instance : Coe String WideText := ⟨ofString⟩

instance : Append WideText := ⟨fun t u => ⟨t.units ++ u.units⟩⟩

def intercalate (separator : WideText) (ts : List WideText) : WideText :=
  ⟨separator.units.intercalate (ts.map units)⟩

/-- The character that is shown for a part of a text; for a single half that is U+FFFD. -/
def Scalar.shown : Scalar → Char
  | char c => c
  | half _ => '\uFFFD'

def toText (t : WideText) : String := String.ofList (t.scalars.map Scalar.shown)

end WideText

end CubeSlice
