import CubeSlice.Schema

/-!
# Cubes

What the query service tells about its cubes: the listing of all cubes, and the dimensions and
functions of one. A slice through one dimension of a cube spans the others.
-/

namespace CubeSlice.Cube

open Schema

structure Dimension where
  dimension : Number
  size : Number
  keys : List Number

structure Description where
  functions : List (WideText × WideText)
  dimensions : List Dimension
  pid : Option WideText

def listingCheck : Check (List (WideText × WideText)) := fun v => do
  let fs ← fields v
  field fs "links" (record string)

def dimensionCheck : Check Dimension := fun v => do
  let fs ← fields v
  let dimension ← field fs "dimension" natural
  let size ← field fs "size" natural
  let keys ← field fs "keys" (items number)
  return ⟨dimension, size, keys⟩

def descriptionCheck : Check Description := fun v => do
  let fs ← fields v
  let functions ← field fs "functions" (record string)
  let dimensions ← field fs "dimensions" (items dimensionCheck)
  let pid ← field fs "pid" (optional string)
  return ⟨functions, dimensions, pid⟩

inductive ShapeError where
  | noDimension (dim : Number) (count : Nat)
  | notTwoDimensional (count : Nat)
  deriving DecidableEq

def ShapeError.message : ShapeError → String
  | noDimension dim count => "dimension " ++ dim.text ++ " not in [0, " ++ toString count ++ ")"
  | notTwoDimensional count =>
    "slicing a " ++ toString count ++ "-dimensional cube does not give a 2D slice"

/-- The sizes of the dimensions that a slice spans, given the sizes of all dimensions in order. -/
def sliceShape {α : Type} (sizes : List α) (dim : Number) : Except ShapeError (α × α) :=
  match dim.toInt? with
  | some d =>
    if 0 ≤ d ∧ d < sizes.length then
      match sizes.eraseIdx d.toNat with
      | [rows, cols] => .ok (rows, cols)
      | _ => .error (.notTwoDimensional sizes.length)
    else
      .error (.noDimension dim sizes.length)
  | none => .error (.noDimension dim sizes.length)

def Description.sliceShape (d : Description) (dim : Number) : Except ShapeError (Number × Number) :=
  Cube.sliceShape (d.dimensions.map (·.size)) dim

end CubeSlice.Cube
