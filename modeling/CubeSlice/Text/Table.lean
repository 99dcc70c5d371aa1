import CubeSlice.Text.Digits

/-!
# Tables of characters

A table gives values to spans of code points, in ascending order and apart. It is written in words:
the first and the last code point of a span in hexadecimal digits with a hyphen between them, or the
only one, and then the value in the notation of the table.
-/

namespace CubeSlice.Text

variable {α : Type}

structure Span (α : Type) where
  first : Nat
  last : Nat
  value : α

abbrev Table (α : Type) := Array (Span α)

namespace Table

def readSpan? (value? : List Char → Option α) (word : List Char) : Option (Span α) := do
  let first ← natOf? 16 (word.takeWhile isHexDigit)
  match word.dropWhile isHexDigit with
  | '-' :: rest =>
    let last ← natOf? 16 (rest.takeWhile isHexDigit)
    return ⟨first, last, ← value? (rest.dropWhile isHexDigit)⟩
  | rest => return ⟨first, first, ← value? rest⟩

def read (value? : List Char → Option α) (lines : List String) : Table α :=
  ((lines.flatMap fun line => fields ' ' line.toList).filterMap (readSpan? value?)).toArray

/-- How many spans start at or before a code point, if it is known of those before `low` that they
do and of those from `high` on that they do not. -/
def countFrom (t : Table α) (n low high : Nat) : Nat :=
  if low < high then
    let middle := (low + high) / 2
    if t[middle]?.any (·.first ≤ n) then countFrom t n (middle + 1) high
    else countFrom t n low middle
  else
    low
termination_by high - low
decreasing_by
  · omega
  · omega

def span? (t : Table α) (c : Char) : Option (Span α) :=
  match countFrom t c.toNat 0 t.size with
  | 0 => none
  | k + 1 => t[k]?.filter fun s => s.first ≤ c.toNat && c.toNat ≤ s.last

def get? (t : Table α) (c : Char) : Option α := (t.span? c).map (·.value)

end Table

def readMember? : List Char → Option Unit
  | [] => some ()
  | _ => none

end CubeSlice.Text
