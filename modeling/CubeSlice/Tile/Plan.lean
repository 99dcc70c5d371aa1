import CubeSlice.Tile.Layout
import CubeSlice.Shape

/-!
# Planning

A plan is a tile whose layout is sound and whose runs all stay inside its values and inside the
slice. Offsets never decrease from run to run, so that the first and the last run decide; the check
costs the same for any number of runs. All offsets are computed in rounded arithmetic.
-/

namespace CubeSlice

/-- The values of a tile: how many there are, and each of them. Past the end there is nothing. -/
structure TileValues where
  count : Nat
  value : Nat → Number

namespace TileValues

def ofArray (values : Array Number) : TileValues :=
  ⟨values.size, fun i => values.getD i Number.nan⟩

def valueAt (v : TileValues) (position : Number) : Number :=
  match position.index? with
  | some i => v.value i
  | none => Number.nan

def empty : TileValues := ofArray #[]

def unread (count : Nat) : TileValues := ⟨count, fun _ => Number.nan⟩

end TileValues

/-- A tile as it is handed in: its layout may be any value, and there may be no values. -/
structure TileDraft where
  layout : Json.Value
  values : Option TileValues

/-- The copy of `length` values from `source` on to `target` on. -/
structure Run where
  source : Number
  target : Number
  length : Number

/-- Strided copies of the values of a tile, run by run, as long as the number of the run is below
`runCount`. -/
structure Plan where
  tile : Number
  values : TileValues
  layout : Strided Number
  runCount : Number

namespace Plan

def run (p : Plan) (i : Number) : Run where
  source := i * p.layout.substride
  target := p.layout.initialSkip + i * p.layout.superstride
  length := p.layout.chunkSize

/-- The runs from a number on. Numbers are counted up in rounded arithmetic. -/
def runsFrom (p : Plan) (i : Number) : Nat → List Run
  | 0 => []
  | atMost + 1 =>
    if i.lt p.runCount then p.run i :: p.runsFrom (i + Number.ofNat 1) atMost else []

def runs (p : Plan) (atMost : Nat) : List Run := p.runsFrom Number.zero atMost

inductive Side where
  | source
  | target
  deriving DecidableEq, Repr

def Side.name : Side → String
  | source => "source"
  | target => "destination"

/-- The first run that leaves its range, with the ends of that run and the limit that it passes. -/
structure Overflow where
  tile : Number
  run : Number
  side : Side
  start : Number
  length : Number
  limit : Number

namespace Overflow

def stop (o : Overflow) : Number := o.start + o.length

def message (o : Overflow) : String :=
  let range := "[" ++ o.start.text ++ ", " ++ o.stop.text ++ ")"
  let head := "tile " ++ o.tile.text ++ " iteration " ++ o.run.text ++ ": "
  match o.side with
  | .target => head ++ "destination range " ++ range ++ " exceeds slice size " ++ o.limit.text
  | .source => head ++ "source range " ++ range ++ " exceeds " ++ o.limit.text ++ " tile values"

end Overflow

inductive Error where
  | layout (tile : Number) (error : Layout.Error)
  | overflow (o : Overflow)
  | noValues

def Error.message : Error → WideText
  | layout tile e => e.message tile
  | overflow o => o.message
  | noValues => "Cannot read properties of undefined (reading 'length')"

/-- The first of `count` runs of the given length, starting at `start` and advancing by `stride`,
that passes `limit`. There is none where the limit is not a number. -/
def firstOverflow (start stride length limit count : Number) : Option Number :=
  if limit.lt (start + length) then
    some Number.zero
  else if stride.isZero then
    none
  else if (start + (count - Number.ofNat 1) * stride + length).le limit then
    none
  else
    let run := ((limit - length - start) / stride).floor + Number.ofNat 1
    if Number.zero.le run then some run else none

/-- The overflow of a layout with at least one run and one value in it. Where one run passes both
limits, the target is named. -/
def overflow? (l : Layout) (tile : Number) (values : TileValues) (size : Number) :
    Option Overflow :=
  let length := l.chunkSize.number
  let valueCount := Number.ofNat values.count
  let target? := firstOverflow l.initialSkip.number l.superstride.number length size
    l.iterations.number
  let source? := firstOverflow Number.zero l.substride.number length valueCount l.iterations.number
  let atTarget (run : Number) : Overflow :=
    ⟨tile, run, .target, l.initialSkip.number + run * l.superstride.number, length, size⟩
  let atSource (run : Number) : Overflow :=
    ⟨tile, run, .source, run * l.substride.number, length, valueCount⟩
  match target?, source? with
  | some t, some s => some (if t.le s then atTarget t else atSource s)
  | some t, none => some (atTarget t)
  | none, some s => some (atSource s)
  | none, none => none

def idle (l : Layout) (tile : Number) (values : TileValues) : Plan :=
  ⟨tile, values, l.numbers, Number.zero⟩

/-- Plans a sound layout. Without runs or without values to copy the plan is empty, whatever the
other fields say. -/
def ofLayout (l : Layout) (tile : Number) (values : TileValues) (size : Number) :
    Except Overflow Plan :=
  if l.isIdle then .ok (idle l tile values)
  else
    match overflow? l tile values size with
    | some o => .error o
    | none => .ok ⟨tile, values, l.numbers, l.iterations.number⟩

end Plan

/-- Checks a tile for a slice of the given size. -/
def TileDraft.plan (t : TileDraft) (tile size : Number) : Except Plan.Error Plan :=
  match Layout.ofValue t.layout with
  | .error e => .error (.layout tile e)
  | .ok l =>
    match t.values with
    | some values => (Plan.ofLayout l tile values size).mapError .overflow
    | none => if l.isIdle then .ok (Plan.idle l tile .empty) else .error .noValues

end CubeSlice
