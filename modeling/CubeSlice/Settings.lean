import CubeSlice.Log
import CubeSlice.Number.Literal
import CubeSlice.Url.Validity

/-!
# Settings

Five environment variables set what the command line may override. An empty variable counts as
missing. The address has to be a valid one, the lifetime of tokens a positive decimal number and the
log level one of the five names; the first offending variable in this order is reported.
-/

namespace CubeSlice

abbrev Environment := List (String × String)

structure Settings where
  baseUrl : Option String
  token : Option String
  secret : Option String
  tokenLifetime : Option Number
  logLevel : Option Log.Level

namespace Settings

inductive Variable where
  | baseUrl
  | token
  | secret
  | tokenLifetime
  | logLevel
  deriving DecidableEq, Repr

def Variable.name : Variable → String
  | baseUrl => "SLICESTITCH_BASE_URL"
  | token => "SLICESTITCH_TOKEN"
  | secret => "SLICESTITCH_SECRET"
  | tokenLifetime => "SLICESTITCH_TOKEN_TTL"
  | logLevel => "SLICESTITCH_LOG"

inductive Error where
  | invalidUrl
  | notPositiveInteger
  | unknownLevel (got : String)
  deriving DecidableEq

namespace Error

def blamed : Error → Variable
  | invalidUrl => .baseUrl
  | notPositiveInteger => .tokenLifetime
  | unknownLevel _ => .logLevel

def reason : Error → String
  | invalidUrl => "Invalid url"
  | notPositiveInteger => "must be a positive integer"
  | unknownLevel got =>
    "Invalid enum value. Expected " ++
      " | ".intercalate (Log.Level.all.map fun l => "'" ++ l.name ++ "'") ++ ", received '" ++ got ++ "'"

def message (e : Error) : String := e.blamed.name ++ ": " ++ e.reason

end Error

/-- The value of a variable that is set and not empty. -/
def lookup (env : Environment) (v : Variable) : Option String :=
  match env.find? (·.1 == v.name) with
  | some (_, value) => if value = "" then none else some value
  | none => none

def readUrl (text : String) : Except Error String :=
  if Url.isValid text then .ok text else .error .invalidUrl

/-- A lifetime in decimal digits, at least one of them not zero. -/
def readLifetime (text : String) : Except Error Number :=
  let digits := text.toList
  if digits.isEmpty || !digits.all Char.isDigit then .error .notPositiveInteger
  else
    let x := Number.ofDigits false digits
    if Number.zero.lt x then .ok x else .error .notPositiveInteger

def readLevel (text : String) : Except Error Log.Level :=
  match Log.Level.ofName? text with
  | some l => .ok l
  | none => .error (.unknownLevel text)

def load (env : Environment) : Except Error Settings := do
  let baseUrl ← (lookup env .baseUrl).mapM readUrl
  let tokenLifetime ← (lookup env .tokenLifetime).mapM readLifetime
  let logLevel ← (lookup env .logLevel).mapM readLevel
  return ⟨baseUrl, lookup env .token, lookup env .secret, tokenLifetime, logLevel⟩

end Settings

end CubeSlice
