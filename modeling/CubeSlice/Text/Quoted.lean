import CubeSlice.Text.Units

/-!
# Quoted texts

How a text that was not accepted is shown in a message: between quotes, with the controls and the
backslash escaped. The quotes are single ones unless the text has such quotes itself and there are
others to take. A text that is too long for one line is quoted line by line, and what is shown is
cut off in the end.
-/

namespace CubeSlice.Text.Quoted

def single : Char := '\x27'

def double : Char := '\x22'

def grave : Char := '\x60'

def hasDollarBrace (cs : List Char) : Bool := (cs.zip cs.tail).contains ('$', '\x7b')

def mark (cs : List Char) : Char :=
  if !cs.contains single then single
  else if !cs.contains double then double
  else if !cs.contains grave && !hasDollarBrace cs then grave
  else single

def hexDigit (n : Nat) : Char := (Nat.digitChar (n % 16)).toUpper

def isControl (c : Char) : Bool := c.toNat < 0x20 || (0x7F ≤ c.toNat && c.toNat < 0xA0)

def escape (mark c : Char) : List Char :=
  if c = '\\' then ['\\', '\\']
  else if c = single ∧ mark = single then ['\\', single]
  else if c.toNat = 8 then ['\\', 'b']
  else if c.toNat = 9 then ['\\', 't']
  else if c.toNat = 10 then ['\\', 'n']
  else if c.toNat = 12 then ['\\', 'f']
  else if c.toNat = 13 then ['\\', 'r']
  else if isControl c then ['\\', 'x', hexDigit (c.toNat / 16), hexDigit c.toNat]
  else [c]

def quote (cs : List Char) : List Char :=
  let q := mark cs
  q :: cs.flatMap (escape q) ++ [q]

def lines (cs : List Char) : List (List Char) :=
  cs.foldr (fun c parts =>
    match parts with
    | part :: rest => if c = '\n' then [c] :: part :: rest else (c :: part) :: rest
    | [] => [[c]]) []

/-- No more units of a text are looked at. -/
def longestText : Nat := 10000

/-- A text with more units is quoted line by line. -/
def longestLine : Nat := 124

def longestShown : Nat := 128

def whole (cs : List Char) : List Char :=
  let cs := takeUnits longestText cs
  if unitCount cs ≤ longestLine then quote cs
  else " +\n  ".toList.intercalate ((lines cs).map quote)

def shown (text : String) : String :=
  let cs := whole text.toList
  if unitCount cs ≤ longestShown then String.ofList cs
  else String.ofList (takeUnits longestShown cs) ++ "..."

end CubeSlice.Text.Quoted
