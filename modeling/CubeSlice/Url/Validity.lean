import CubeSlice.Url.Domain

/-!
# Valid addresses

An address without a base is valid when it has a scheme, and behind the schemes of the web a host.
Blanks and controls around it and tabs and line ends inside it are ignored. What follows the host,
user names and the whole of other schemes' paths can hold anything.
-/

namespace CubeSlice.Url

open Text

def strip (text : String) : List Char :=
  let isEdge (c : Char) : Bool := c.toNat ≤ 0x20
  let cs := ((text.toList.dropWhile isEdge).reverse.dropWhile isEdge).reverse
  cs.filter fun c => !(c == '\t' || c == '\n' || c == '\r')

def splitScheme? (cs : List Char) : Option (String × List Char) :=
  let isSchemeChar (c : Char) : Bool := c.isAlphanum || c == '+' || c == '-' || c == '.'
  match cs with
  | c :: _ =>
    if c.isAlpha then
      match cs.dropWhile isSchemeChar with
      | ':' :: rest => some (String.ofList ((cs.takeWhile isSchemeChar).map Char.toLower), rest)
      | _ => none
    else
      none
  | [] => none

def isWebScheme (scheme : String) : Bool := ["http", "https", "ws", "wss", "ftp"].contains scheme

def isSlash (c : Char) : Bool := c == '/' || c == '\\'

def percentDecode : List UInt8 → List UInt8
  | 0x25 :: a :: b :: rest =>
    match digitOf? 16 (Char.ofNat a.toNat), digitOf? 16 (Char.ofNat b.toNat) with
    | some high, some low => UInt8.ofNat (high * 16 + low) :: percentDecode rest
    | _, _ => 0x25 :: percentDecode (a :: b :: rest)
  | byte :: rest => byte :: percentDecode rest
  | [] => []

def isHost (web : Bool) (host : List Char) : Bool :=
  match host with
  | '[' :: rest => rest.getLast? == some ']' && Ipv6.isValid rest.dropLast
  | host =>
    if web then
      let bytes := percentDecode (host.flatMap String.utf8EncodeChar)
      match String.fromUTF8? ⟨bytes.toArray⟩ with
      | some name => Domain.isValid name.toList
      | none => false
    else
      host.all (!Domain.isForbiddenHost ·)

def splitPort (inside : Bool) : List Char → List Char × Option (List Char)
  | [] => ([], none)
  | c :: rest =>
    if c = ':' ∧ inside = false then ([], some rest)
    else
      let inside := if c = '[' then true else if c = ']' then false else inside
      let (host, port) := splitPort inside rest
      (c :: host, port)

def greatestPort : Nat := 65535

def isPort (digits : List Char) : Bool :=
  digits.all Char.isDigit && (cappedNatOf? (greatestPort + 1) 10 digits).any (· ≤ greatestPort)

def isAuthority (web : Bool) (cs : List Char) : Bool :=
  let isEnd (c : Char) : Bool := c == '/' || c == '?' || c == '#' || (web && c == '\\')
  let authority := cs.takeWhile (!isEnd ·)
  let hostAndPort := (authority.reverse.takeWhile (· != '@')).reverse
  let hasUser := hostAndPort.length < authority.length
  let (host, port) := splitPort false hostAndPort
  if host.isEmpty then
    !web && !hasUser && port.isNone
  else
    isHost web host && port.all isPort

/-- The host of a file address, which may be missing or be a drive letter. -/
def isFileRest (cs : List Char) : Bool :=
  match cs with
  | a :: b :: rest =>
    if isSlash a && isSlash b then
      let host := rest.takeWhile fun c => !(isSlash c || c == '?' || c == '#')
      match host with
      | [] => true
      | [c, d] => (c.isAlpha && (d == ':' || d == '|')) || isHost true host
      | host => isHost true host
    else
      true
  | _ => true

def isValid (text : String) : Bool :=
  match splitScheme? (strip text) with
  | none => false
  | some (scheme, rest) =>
    if scheme = "file" then isFileRest rest
    else if isWebScheme scheme then isAuthority true (rest.dropWhile isSlash)
    else
      match rest with
      | '/' :: '/' :: rest => isAuthority false rest
      | _ => true

end CubeSlice.Url
