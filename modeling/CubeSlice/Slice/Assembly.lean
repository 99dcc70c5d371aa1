import CubeSlice.Slice.Basic
import CubeSlice.Tile.Scatter

/-!
# Assembly

An ordered list of tiles is scattered into a fresh slice of zeros. All tiles are planned before the
first write, and the first tile that is unsound or leaves its range is reported. On request every
element has to be written by some tile.
-/

namespace CubeSlice

namespace Assembly

structure Options where
  dtype : DType
  requireCoverage : Bool

inductive Error where
  | extent (error : Extent.Error)
  | tile (error : Plan.Error)
  | uncovered (missing first size : Nat)

def Error.message : Error → WideText
  | extent (.notDimensions rows cols) =>
    "slice shape must be positive integers, got [" ++ rows.display ++ ", " ++ cols.display ++ "]"
  | extent (.tooLarge rows cols) =>
    "slice shape [" ++ toString rows ++ ", " ++ toString cols ++ "] is too large"
  | extent .untold => Json.Value.untold
  | tile e => e.message
  | uncovered missing first size =>
    toString missing ++ " of " ++ toString size ++
      " slice elements were never written (first at offset " ++ toString first ++ ")"

def planAll (tiles : List TileDraft) (size : Number) : Except Plan.Error (List Plan) :=
  tiles.zipIdx.mapM fun (t, i) => t.plan (Number.ofNat i) size

def checkCoverage {dtype : DType} (c : Canvas dtype) : Except Error Unit :=
  match c.marks with
  | none => .ok ()
  | some marks =>
    match Canvas.uncovered marks with
    | (missing, some first) => .error (.uncovered missing first marks.size)
    | (_, none) => .ok ()

def scatter (extent : Extent) (options : Options) (plans : List Plan) : Canvas options.dtype :=
  (Canvas.blank options.dtype extent.size options.requireCoverage).applyAll plans

structure Result where
  slice : Slice
  plans : List Plan

def run (tiles : List TileDraft) (rows cols : Json.Value) (options : Options) :
    Except Error Result := do
  let extent ← (Extent.ofDimensions rows cols).mapError .extent
  let plans ← (planAll tiles (Number.ofNat extent.size)).mapError .tile
  let canvas := scatter extent options plans
  checkCoverage canvas
  return ⟨⟨extent, options.dtype, canvas.buffer, by simp [canvas, scatter]⟩, plans⟩

def Result.note (r : Result) : String :=
  "assembled " ++ toString r.plans.length ++ " tile(s), " ++ (Plan.totalRuns r.plans).text ++
    " run(s) into [" ++ toString r.slice.rows ++ ", " ++ toString r.slice.cols ++ "]"

end Assembly

/-- The slice that a list of tiles makes. -/
def assemble (tiles : List TileDraft) (rows cols : Json.Value) (options : Assembly.Options) :
    Except Assembly.Error Slice :=
  (Assembly.run tiles rows cols options).map (·.slice)

end CubeSlice
