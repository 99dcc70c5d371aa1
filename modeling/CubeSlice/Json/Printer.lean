import CubeSlice.Json.Value

/-!
# Printing

The compact text of a value. Absent fields are left out; absent items, not-a-number and the
infinities are written `null`. Strings escape the quote, the backslash, the characters below U+0020
and single halves of pairs.
-/

namespace CubeSlice.Json

def hexDigit (n : Nat) : Char := Nat.digitChar (n % 16)

def escapeChar (c : Char) : List Char :=
  if c = '"' then ['\\', '"']
  else if c = '\\' then ['\\', '\\']
  else if c.toNat < 0x20 then
    if c.toNat = 8 then ['\\', 'b']
    else if c.toNat = 9 then ['\\', 't']
    else if c.toNat = 10 then ['\\', 'n']
    else if c.toNat = 12 then ['\\', 'f']
    else if c.toNat = 13 then ['\\', 'r']
    else ['\\', 'u', '0', '0', hexDigit (c.toNat / 16), hexDigit c.toNat]
  else [c]

def escape : WideText.Scalar → List Char
  | .char c => escapeChar c
  | .half u =>
    ['\\', 'u', hexDigit (u.toNat / 0x1000), hexDigit (u.toNat / 0x100), hexDigit (u.toNat / 0x10),
      hexDigit u.toNat]

def quote (t : WideText) : String :=
  String.ofList ('"' :: t.scalars.flatMap escape ++ ['"'])

def numberText : Number → String
  | .finite negative n held => (Number.finite negative n held).text
  | _ => "null"

namespace Value

mutual

def write (text : String) : Value → String
  | absent => text ++ "null"
  | null => text ++ "null"
  | bool b => text ++ (if b then "true" else "false")
  | number x => text ++ numberText x
  | string s => text ++ quote s
  | array items => (writeItems (text.push '[') true items).push ']'
  | object fields => (writeFields (text.push '\x7b') true fields).push '\x7d'

def writeItems (text : String) (first : Bool) : List Value → String
  | [] => text
  | item :: rest => writeItems (write (if first then text else text.push ',') item) false rest

def writeFields (text : String) (first : Bool) : List (WideText × Value) → String
  | [] => text
  | (key, value) :: rest =>
    if value.isAbsent then
      writeFields text first rest
    else
      let text := if first then text else text.push ','
      writeFields (write ((text ++ quote key).push ':') value) false rest

end

def print (v : Value) : String := write "" v

end Value

end CubeSlice.Json
