import CubeSlice.Json.Printer
import CubeSlice.Number.Arithmetic
import CubeSlice.Token.Base64Url
import CubeSlice.Token.Sha256

/-!
# Bearer tokens

A token is three segments joined by dots: a fixed header, the claims, and the keyed digest of what
stands before. Service tokens claim nothing but the second in which they expire.
-/

namespace CubeSlice.Token

def utf8 (s : String) : List UInt8 := s.toUTF8.toList

def segment (s : String) : String := String.ofList (Base64Url.encode (utf8 s))

def header : Json.Value := .object [("alg", .string "HS256"), ("typ", .string "JWT")]

def signingInput (claims : Json.Value) : String :=
  segment header.print ++ "." ++ segment claims.print

def sign (claims : Json.Value) (secret : String) : String :=
  let input := signingInput claims
  input ++ "." ++ String.ofList (Base64Url.encode (Sha256.hmac (utf8 secret) (utf8 input)))

inductive LifetimeError where
  | notPositiveInteger (got : Json.Value)
  | untold

namespace LifetimeError

def message : LifetimeError → WideText
  | notPositiveInteger got => "token ttl must be a positive integer, got " ++ got.display
  | untold => Json.Value.untold

def ofValue (got : Json.Value) : LifetimeError :=
  if got.isTellable then notPositiveInteger got else untold

end LifetimeError

def defaultLifetime : Number := Number.ofNat 3600

/-- The lifetime asked for; a missing or null one stands for the default. -/
def lifetime (asked : Json.Value) : Except LifetimeError Number :=
  match asked with
  | .absent => .ok defaultLifetime
  | .null => .ok defaultLifetime
  | .number x =>
    if x.isSafeInteger && Number.zero.lt x then .ok x else .error (.ofValue asked)
  | _ => .error (.ofValue asked)

/-- The second in which a token of the given lifetime expires; `now` counts milliseconds. -/
def expiry (lifetime now : Number) : Number := (now / Number.ofNat 1000).floor + lifetime

def service (secret : String) (asked : Json.Value) (now : Number) :
    Except LifetimeError String := do
  let seconds ← lifetime asked
  return sign (.object [("exp", .number (expiry seconds now))]) secret

end CubeSlice.Token
