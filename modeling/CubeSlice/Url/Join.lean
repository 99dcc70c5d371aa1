/-!
# Joining addresses

An address is a base followed by segments. Whatever is not an unreserved character is written as the
percent-encoded bytes of its UTF-8 form, so a segment never brings in a slash of its own.
-/

namespace CubeSlice.Url

def isUnreserved (c : Char) : Bool :=
  c.isAlphanum || c == '-' || c == '_' || c == '.' || c == '!' || c == '~' || c == '*' ||
    c == '\'' || c == '(' || c == ')'

def hexDigit (n : Nat) : Char := (Nat.digitChar (n % 16)).toUpper

def encodeByte (b : UInt8) : List Char := ['%', hexDigit (b.toNat / 16), hexDigit b.toNat]

def encodeChar (c : Char) : List Char :=
  if isUnreserved c then [c] else (String.utf8EncodeChar c).flatMap encodeByte

def encodeSegment (s : String) : List Char := s.toList.flatMap encodeChar

def trimSlashes (base : String) : List Char :=
  (base.toList.reverse.dropWhile (· == '/')).reverse

def join (base : String) (segments : List String) : String :=
  match segments with
  | [] => String.ofList (trimSlashes base ++ ['/'])
  | _ => String.ofList (trimSlashes base ++ segments.flatMap fun s => '/' :: encodeSegment s)

end CubeSlice.Url
