import CubeSlice.Session
import CubeSlice.Url.Validity

/-!
# Plain transport

Where a request goes and how it is put on the wire, one connection per request: the message of the
request and the reply in the bytes that come back until the connection closes.
-/

namespace CubeSlice.Transport

structure Endpoint where
  host : String
  port : Nat
  target : String
  deriving DecidableEq, Repr

/-- The endpoint of a plain web address; other schemes have none here. -/
def endpoint? (url : String) : Option Endpoint :=
  if Url.isValid url then
    match Url.splitScheme? (Url.strip url) with
    | some ("http", rest) =>
      let rest := rest.dropWhile Url.isSlash
      let isEnd (c : Char) : Bool := Url.isSlash c || c == '?' || c == '#'
      let authority := rest.takeWhile (!isEnd ·)
      let path := (rest.dropWhile (!isEnd ·)).takeWhile (· != '#')
      let hostAndPort := (authority.reverse.takeWhile (· != '@')).reverse
      let (host, port) := Url.splitPort false hostAndPort
      let host := host.filter fun c => !(c == '[' || c == ']')
      let port := (port.bind (Text.natOf? 10)).filter (0 < ·)
      let target := if path.head?.any Url.isSlash then path else '/' :: path
      some ⟨String.ofList host, port.getD 80, String.ofList target⟩
    | _ => none
  else
    none

def message (e : Endpoint) (r : Request) : String :=
  r.method ++ " " ++ e.target ++ " HTTP/1.0\r\nHost: " ++ e.host ++ "\r\n" ++
    String.join (r.headers.map fun (name, value) => name ++ ": " ++ value ++ "\r\n") ++ "\r\n"

def splitHead : List UInt8 → List UInt8 × List UInt8
  | 13 :: 10 :: 13 :: 10 :: body => ([], body)
  | 10 :: 10 :: body => ([], body)
  | byte :: rest =>
    let (head, body) := splitHead rest
    (byte :: head, body)
  | [] => ([], [])

def unreachable : Reply := .failure "TypeError" "fetch failed"

def readReply (bytes : List UInt8) : Reply :=
  let (head, body) := splitHead bytes
  let line := (head.takeWhile fun b => b != 13 && b != 10).map fun b => Char.ofNat b.toNat
  match Text.fields ' ' line, String.fromUTF8? ⟨body.toArray⟩ with
  | version :: status :: text, some body =>
    match "HTTP/".toList.isPrefixOf version, Text.natOf? 10 status with
    | true, some status =>
      .response (Number.ofNat status) (String.ofList (" ".toList.intercalate text)) body
    | _, _ => unreachable
  | _, _ => unreachable

end CubeSlice.Transport
