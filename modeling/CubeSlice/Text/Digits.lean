/-!
# Digits and fields

Numbers written in digits of a radix up to sixteen, and texts cut at a separator.
-/

namespace CubeSlice.Text

def fields (separator : Char) (cs : List Char) : List (List Char) :=
  cs.foldr (fun c parts =>
    if c = separator then [] :: parts
    else match parts with
      | part :: rest => (c :: part) :: rest
      | [] => [[c]]) [[]]

def digitOf? (radix : Nat) (c : Char) : Option Nat :=
  let n := c.toNat
  let value :=
    if '0' ≤ c ∧ c ≤ '9' then n - 48
    else if 'a' ≤ c ∧ c ≤ 'f' then n - 87
    else if 'A' ≤ c ∧ c ≤ 'F' then n - 55
    else 16
  if value < radix then some value else none

def natOf? (radix : Nat) (cs : List Char) : Option Nat :=
  cs.foldlM (fun n c => (digitOf? radix c).map (n * radix + ·)) 0

def cappedNatOf? (cap radix : Nat) (cs : List Char) : Option Nat :=
  cs.foldlM (fun n c => (digitOf? radix c).map fun d => min cap (n * radix + d)) 0

def isHexDigit (c : Char) : Bool := (digitOf? 16 c).isSome

end CubeSlice.Text
