import CubeSlice.Json.Value
import CubeSlice.Number.Count

/-!
# Layouts

Strided copies: run `i` takes `chunk_size` values from `i * substride` on and puts them from
`initial_skip + i * superstride` on. In a layout all five fields are counts. `Layout.ofValue` checks
a data value field by field and names the first field that is not a count.
-/

namespace CubeSlice

structure Strided (α : Type) where
  initialSkip : α
  chunkSize : α
  iterations : α
  substride : α
  superstride : α

abbrev Layout := Strided Count

namespace Layout

inductive Field where
  | initialSkip
  | chunkSize
  | iterations
  | substride
  | superstride
  deriving DecidableEq, Repr

namespace Field

def name : Field → String
  | initialSkip => "initial_skip"
  | chunkSize => "chunk_size"
  | iterations => "iterations"
  | substride => "substride"
  | superstride => "superstride"

def all : List Field := [initialSkip, chunkSize, iterations, substride, superstride]

end Field

end Layout

namespace Strided

variable {α β : Type}

def get (s : Strided α) : Layout.Field → α
  | .initialSkip => s.initialSkip
  | .chunkSize => s.chunkSize
  | .iterations => s.iterations
  | .substride => s.substride
  | .superstride => s.superstride

def map (f : α → β) (s : Strided α) : Strided β :=
  ⟨f s.initialSkip, f s.chunkSize, f s.iterations, f s.substride, f s.superstride⟩

def ofFieldsM {m : Type → Type} [Monad m] (read : Layout.Field → m α) : m (Strided α) := do
  let initialSkip ← read .initialSkip
  let chunkSize ← read .chunkSize
  let iterations ← read .iterations
  let substride ← read .substride
  let superstride ← read .superstride
  return ⟨initialSkip, chunkSize, iterations, substride, superstride⟩

end Strided

namespace Layout

def numbers (l : Layout) : Strided Number := l.map Count.number

/-- A layout without runs, or with nothing to copy in them. -/
def isIdle (l : Layout) : Bool := l.iterations.number.isZero || l.chunkSize.number.isZero

def toValue (l : Layout) : Json.Value :=
  .object (Field.all.map fun f => (f.name, .number (l.get f).number))

inductive Error where
  | missing
  | notInteger (field : Field) (got : Json.Value)
  | negative (field : Field) (got : Number)
  | untold

namespace Error

def field? : Error → Option Field
  | missing => none
  | untold => none
  | notInteger f _ => some f
  | negative f _ => some f

def message (tile : Number) : Error → WideText
  | missing => "tile " ++ tile.text ++ " has no layout"
  | notInteger f got =>
    "tile " ++ tile.text ++ ": layout." ++ f.name ++ " must be an integer, got " ++ got.display
  | negative f got =>
    "tile " ++ tile.text ++ ": layout." ++ f.name ++ " must be >= 0, got " ++ got.text
  | untold => Json.Value.untold

def ofField (f : Field) (got : Json.Value) : Error :=
  if got.isTellable then notInteger f got else untold

end Error

def readCount (f : Field) (got : Json.Value) : Except Error Count :=
  match got with
  | .number x =>
    if hs : x.isSafeInteger = true then
      if hn : x.lt Number.zero = false then .ok ⟨x, hs, hn⟩ else .error (.negative f x)
    else
      .error (.ofField f got)
  | _ => .error (.ofField f got)

/-- The layout that a value is. An array counts as an object without the fields. -/
def ofValue (v : Json.Value) : Except Error Layout :=
  match v with
  | .object _ => Strided.ofFieldsM fun f => readCount f (v.field f.name)
  | .array _ => Strided.ofFieldsM fun f => readCount f .absent
  | _ => .error .missing

end Layout

end CubeSlice
