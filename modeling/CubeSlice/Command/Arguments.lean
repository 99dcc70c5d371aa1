import CubeSlice.Number.Literal
import CubeSlice.Slice.OutputFormat

/-!
# Arguments

The command line is a sequence of groups: a switch, or a flag followed by its value. Groups are read
from the left, a later group overrides an earlier one, and the first group that is out of order is
reported. Unless help is asked for, cube, dimension and line have to be given, and the two shape
flags only together.
-/

namespace CubeSlice

structure Arguments where
  help : Bool
  baseUrl : Option String
  guid : Option String
  dim : Option Number
  lineno : Option Number
  shape0 : Option Number
  shape1 : Option Number
  token : Option String
  secret : Option String
  output : Option String
  format : Option OutputFormat
  transpose : Bool
  requireCoverage : Bool
  single : Bool
  verbose : Bool

namespace Arguments

def none : Arguments :=
  ⟨false, .none, .none, .none, .none, .none, .none, .none, .none, .none, .none, false, false,
    false, false⟩

inductive Switch where
  | help
  | transpose
  | requireCoverage
  | single
  | verbose
  deriving DecidableEq, Repr

def Switch.ofArg? (arg : String) : Option Switch :=
  if arg = "--help" ∨ arg = "-h" then some help
  else if arg = "--transpose" then some transpose
  else if arg = "--require-coverage" then some requireCoverage
  else if arg = "--f32" then some single
  else if arg = "--verbose" ∨ arg = "-v" then some verbose
  else .none

def turnOn (a : Arguments) : Switch → Arguments
  | .help => { a with help := true }
  | .transpose => { a with transpose := true }
  | .requireCoverage => { a with requireCoverage := true }
  | .single => { a with single := true }
  | .verbose => { a with verbose := true }

inductive Flag where
  | baseUrl
  | guid
  | dim
  | lineno
  | shape0
  | shape1
  | token
  | secret
  | output
  | format
  deriving DecidableEq, Repr

def Flag.ofArg? (arg : String) : Option Flag :=
  if arg = "--base-url" then some baseUrl
  else if arg = "--guid" then some guid
  else if arg = "--dim" then some dim
  else if arg = "--lineno" then some lineno
  else if arg = "--shape0" then some shape0
  else if arg = "--shape1" then some shape1
  else if arg = "--token" then some token
  else if arg = "--secret" then some secret
  else if arg = "--output" ∨ arg = "-o" then some output
  else if arg = "--format" then some format
  else .none

inductive Error where
  | unknown (arg : String)
  | valueExpected (arg : String)
  | integerExpected (arg : String) (got : Option String)
  | unsafeInteger (arg : String) (got : String)
  | unknownFormat (got : String)
  | guidRequired
  | dimRequired
  | linenoRequired
  | shapeIncomplete
  | baseUrlRequired
  deriving DecidableEq

def Error.message : Error → String
  | unknown arg => "unknown argument: " ++ arg
  | valueExpected arg => arg ++ " expects a value"
  | integerExpected arg got => arg ++ " expects an integer, got " ++ got.getD "nothing"
  | unsafeInteger arg got => arg ++ " is out of the safe integer range: " ++ got
  | unknownFormat got => "--format must be json, csv or npy, got " ++ got
  | guidRequired => "--guid is required"
  | dimRequired => "--dim is required"
  | linenoRequired => "--lineno is required"
  | shapeIncomplete => "--shape0 and --shape1 must be given together"
  | baseUrlRequired => "--base-url is required (or set SLICESTITCH_BASE_URL)"

/-- The number that a text stands for, if it is decimal digits behind an optional minus sign. -/
def integer? (text : String) : Option Number :=
  let (negative, digits) := match text.toList with
    | '-' :: digits => (true, digits)
    | digits => (false, digits)
  if digits.isEmpty || !digits.all Char.isDigit then .none
  else some (Number.ofDigits negative digits)

def readInteger (arg : String) (got : Option String) : Except Error Number :=
  match got with
  | .none => .error (.integerExpected arg got)
  | some text =>
    match integer? text with
    | .none => .error (.integerExpected arg got)
    | some x => if x.isSafeInteger then .ok x else .error (.unsafeInteger arg text)

/-- A value is any text that does not start like a flag. -/
def readValue (arg : String) (got : Option String) : Except Error String :=
  match got with
  | .none => .error (.valueExpected arg)
  | some text => if text.startsWith "--" then .error (.valueExpected arg) else .ok text

def readFormat (arg : String) (got : Option String) : Except Error OutputFormat := do
  let text ← readValue arg got
  match OutputFormat.ofName? text with
  | some f => .ok f
  | .none => .error (.unknownFormat text)

def set (a : Arguments) (f : Flag) (arg : String) (got : Option String) :
    Except Error Arguments := do
  match f with
  | .baseUrl => return { a with baseUrl := some (← readValue arg got) }
  | .guid => return { a with guid := some (← readValue arg got) }
  | .dim => return { a with dim := some (← readInteger arg got) }
  | .lineno => return { a with lineno := some (← readInteger arg got) }
  | .shape0 => return { a with shape0 := some (← readInteger arg got) }
  | .shape1 => return { a with shape1 := some (← readInteger arg got) }
  | .token => return { a with token := some (← readValue arg got) }
  | .secret => return { a with secret := some (← readValue arg got) }
  | .output => return { a with output := some (← readValue arg got) }
  | .format => return { a with format := some (← readFormat arg got) }

def readGroups (a : Arguments) : List String → Except Error Arguments
  | [] => .ok a
  | arg :: rest =>
    match Switch.ofArg? arg with
    | some s => readGroups (a.turnOn s) rest
    | .none =>
      match Flag.ofArg? arg with
      | .none => .error (.unknown arg)
      | some f =>
        match rest with
        | [] => a.set f arg .none
        | text :: rest => do
          let a ← a.set f arg (some text)
          readGroups a rest

structure Target where
  guid : String
  dim : Number
  lineno : Number
  shape : Option (Number × Number)

def target (a : Arguments) : Except Error Target :=
  match a.guid, a.dim, a.lineno with
  | .none, _, _ => .error .guidRequired
  | _, .none, _ => .error .dimRequired
  | _, _, .none => .error .linenoRequired
  | some guid, some dim, some lineno =>
    match a.shape0, a.shape1 with
    | some rows, some cols => .ok ⟨guid, dim, lineno, some (rows, cols)⟩
    | .none, .none => .ok ⟨guid, dim, lineno, .none⟩
    | _, _ => .error .shapeIncomplete

def parse (argv : List String) : Except Error Arguments := do
  let a ← readGroups none argv
  if a.help then return a
  let _ ← a.target
  return a

end Arguments

end CubeSlice
