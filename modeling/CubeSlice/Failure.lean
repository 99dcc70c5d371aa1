import CubeSlice.Cube
import CubeSlice.Command.Arguments
import CubeSlice.Payload
import CubeSlice.Settings
import CubeSlice.Slice.Assembly
import CubeSlice.Text.Blank
import CubeSlice.Token.Bearer

/-!
# Failures

Everything that can end a run early, with the name and the message under which it is reported.
-/

namespace CubeSlice

inductive Failure where
  | assembly (e : Assembly.Error)
  | slice (e : Slice.ShapeError)
  | index (e : Slice.IndexError)
  | payload (e : Payload.Error)
  | cubeShape (e : Cube.ShapeError)
  | cube (what : String) (v : Schema.Violation)
  | status (code : Number) (text : String) (url : String)
  | notJson (url : String) (reason : Json.ReadError)
  | settings (e : Settings.Error)
  | lifetime (e : Token.LifetimeError)
  | usage (e : Arguments.Error)
  | foreign (name message : String)

namespace Failure

/-- A range that leaves what it should stay in: the side that it is on, its ends and the limit. -/
structure Bounds where
  side : String
  start : Number
  stop : Number
  limit : Number

def bounds? : Failure → Option Bounds
  | assembly (.tile (.overflow o)) => some ⟨o.side.name, o.start, o.stop, o.limit⟩
  | index e => some ⟨"index", e.index, e.stop, Number.ofNat e.limit⟩
  | _ => none

/-- The name for values that are handed in and are not of a kind that can be worked on or told. -/
def wrongKind : String := "TypeError"

def assemblyName : Assembly.Error → String
  | .extent .untold => wrongKind
  | .extent _ => "InvalidShapeError"
  | .tile (.layout _ .untold) => wrongKind
  | .tile (.layout ..) => "MalformedLayoutError"
  | .tile (.overflow _) => "OutOfBoundsError"
  | .tile .noValues => wrongKind
  | .uncovered .. => "IncompleteCoverageError"

def name : Failure → String
  | assembly e => assemblyName e
  | slice .untold => wrongKind
  | slice _ => "InvalidShapeError"
  | index _ => "OutOfBoundsError"
  | payload (.layout ..) => "MalformedLayoutError"
  | payload _ => "MalformedPayloadError"
  | cubeShape _ => "InvalidShapeError"
  | cube .. => "MalformedPayloadError"
  | status .. => "HttpStatusError"
  | notJson .. => "MalformedPayloadError"
  | settings _ => "ConfigError"
  | lifetime .untold => wrongKind
  | lifetime _ => "ConfigError"
  | usage _ => "UsageError"
  | foreign name _ => name

def message : Failure → WideText
  | assembly e => e.message
  | slice e => e.message
  | index e => e.message
  | payload e => e.message
  | cubeShape e => e.message
  | cube what v =>
    what ++ ": " ++ (if v.path.text = "" then "body" else v.path.text : WideText) ++ ": " ++
      v.reason.message
  | status code text url =>
    Text.trimEnd ("GET " ++ url ++ " failed: " ++ code.text ++ " " ++ text)
  | notJson url reason => "response from " ++ url ++ " is not valid JSON: " ++ reason.message
  | settings e => e.message
  | lifetime e => e.message
  | usage e => e.message
  | foreign _ message => message

def line (f : Failure) : WideText := f.name ++ ": " ++ f.message

end Failure

end CubeSlice
