import CubeSlice.Slice.Csv
import CubeSlice.Slice.Json
import CubeSlice.Slice.Npy

/-!
# Output formats

The formats that a slice can be written in, and which of them a file name asks for.
-/

namespace CubeSlice

inductive OutputFormat where
  | json
  | csv
  | npy
  deriving DecidableEq, Repr

namespace OutputFormat

def name : OutputFormat → String
  | json => "json"
  | csv => "csv"
  | npy => "npy"

def ofName? (s : String) : Option OutputFormat :=
  if s = "json" then some json
  else if s = "csv" then some csv
  else if s = "npy" then some npy
  else none

theorem ofName?_name (f : OutputFormat) : ofName? f.name = some f := by
  cases f <;> rfl

theorem name_of_ofName? {s : String} {f : OutputFormat} (h : ofName? s = some f) : s = f.name := by
  unfold ofName? at h
  split at h
  · cases h
    assumption
  · split at h
    · cases h
      assumption
    · split at h
      · cases h
        assumption
      · cases h

/-- What stands behind the last dot; a text without dots stands for itself. -/
def extension (path : String) : String :=
  String.ofList (path.toList.reverse.takeWhile (· != '.')).reverse

/-- The format asked for, else the one that the extension names in any letter case, else JSON. Only
ASCII letters have to change case: no other character turns into a letter of a format's name. -/
def infer (path : Option String) (explicit : Option OutputFormat) : OutputFormat :=
  match explicit with
  | some f => f
  | none => (path.bind fun p => ofName? ((extension p).map Char.toLower)).getD json

/-- The name of the format for a path. A name that was asked for stands, whatever it is, unless it
is empty. -/
def nameFor (path asked : Option String) : String :=
  match asked with
  | none => (infer path none).name
  | some name => if name = "" then (infer path none).name else name

end OutputFormat

namespace Slice

inductive Content where
  | text (s : String)
  | bytes (bs : List UInt8)
  deriving DecidableEq

def Content.toBytes : Content → List UInt8
  | text s => s.toUTF8.toList
  | bytes bs => bs

def encode (m : Npy.Machine) (s : Slice) : OutputFormat → Content
  | .json => .text s.toJson
  | .csv => .text s.toCsv
  | .npy => .bytes (Npy.bytes m s)

end Slice

end CubeSlice
