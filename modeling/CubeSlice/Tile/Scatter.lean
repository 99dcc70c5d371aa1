import CubeSlice.Tile.Buffer
import CubeSlice.Tile.Plan

/-!
# Scattering

Plans write into one canvas strictly in order, so that a later plan wins where ranges overlap, and
inside a plan a later run. A canvas is a buffer together with a row of marks, if somebody asked for
them: a byte for each offset, which is one as soon as the offset was written. Where all runs of a plan
land on the same range only the last one is copied. Positions advance in rounded arithmetic; those of a
plan that was checked are natural numbers.
-/

namespace CubeSlice

structure Canvas (dtype : DType) where
  buffer : Buffer dtype
  marks : Option (Array UInt8)

variable {dtype : DType}

namespace Buffer

def copyFrom (values : TileValues) (source target : Nat) : Nat → Buffer dtype → Buffer dtype
  | 0, b => b
  | count + 1, b =>
    copyFrom values (source + 1) (target + 1) count (b.set target (values.value source))

def copyBetween (values : TileValues) (source target : Number) (count : Nat) (b : Buffer dtype) :
    Buffer dtype :=
  (List.range count).foldl
    (fun b k => b.setAt (target + Number.ofNat k) (values.valueAt (source + Number.ofNat k))) b

/-- Copies one run. Between natural numbers no position is rounded. -/
def copyRun (values : TileValues) (r : Run) (b : Buffer dtype) : Buffer dtype :=
  match r.source.index?, r.target.index? with
  | some source, some target => b.copyFrom values source target r.length.naturalsBelow
  | _, _ => b.copyBetween values r.source r.target r.length.naturalsBelow

@[simp] theorem size_copyFrom (values : TileValues) (source target count : Nat)
    (b : Buffer dtype) : (b.copyFrom values source target count).size = b.size := by
  induction count generalizing source target b with
  | zero => rfl
  | succ count ih => simp [copyFrom, ih]

@[simp] theorem size_copyBetween (values : TileValues) (source target : Number) (count : Nat)
    (b : Buffer dtype) : (b.copyBetween values source target count).size = b.size := by
  induction count with
  | zero => rfl
  | succ count ih => simpa [copyBetween, List.range_succ] using ih

@[simp] theorem size_copyRun (values : TileValues) (r : Run) (b : Buffer dtype) :
    (b.copyRun values r).size = b.size := by
  unfold copyRun
  split <;> simp

end Buffer

def markFrom (target : Nat) : Nat → Array UInt8 → Array UInt8
  | 0, marks => marks
  | count + 1, marks => markFrom (target + 1) count (marks.setIfInBounds target 1)

@[simp] theorem size_markFrom (target count : Nat) (marks : Array UInt8) :
    (markFrom target count marks).size = marks.size := by
  induction count generalizing target marks with
  | zero => rfl
  | succ count ih => simp [markFrom, ih]

/-- An offset into a row; one below zero counts from the end. -/
def offsetIn (size : Nat) (i : Int) : Nat := (if i < 0 then size + i else i).toNat

/-- Marks the range of a run, both ends cut to whole offsets. -/
def markRun (r : Run) (marks : Array UInt8) : Array UInt8 :=
  let start := offsetIn marks.size r.target.whole
  let stop := offsetIn marks.size (r.target + r.length).whole
  markFrom start (stop - start) marks

namespace Plan

/-- The run before the end, in rounded arithmetic, but not before the first. -/
def lastRun (p : Plan) : Number :=
  let last := p.runCount - Number.ofNat 1
  if last.lt Number.zero then Number.zero else last

def firstVisible (p : Plan) : Number :=
  if p.layout.superstride.isZero then p.lastRun else Number.zero

def visibleCount (p : Plan) : Nat :=
  if p.layout.superstride.isZero then if p.lastRun.lt p.runCount then 1 else 0
  else p.runCount.naturalsBelow

def next (p : Plan) (r : Run) : Run :=
  { r with source := r.source + p.layout.substride, target := r.target + p.layout.superstride }

end Plan

namespace Canvas

def blank (dtype : DType) (size : Nat) (marked : Bool) : Canvas dtype where
  buffer := Buffer.zeros dtype size
  marks := if marked then some (Array.replicate size 0) else none

def copyRun (values : TileValues) (r : Run) (c : Canvas dtype) : Canvas dtype where
  buffer := c.buffer.copyRun values r
  marks := c.marks.map (markRun r)

/-- Executes `count` runs of a plan, the first of which is given. -/
def execute (p : Plan) (r : Run) : Nat → Canvas dtype → Canvas dtype
  | 0, c => c
  | count + 1, c => execute p (p.next r) count (c.copyRun p.values r)

def apply (c : Canvas dtype) (p : Plan) : Canvas dtype :=
  c.execute p (p.run p.firstVisible) p.visibleCount

def applyAll (c : Canvas dtype) (plans : List Plan) : Canvas dtype := plans.foldl apply c

@[simp] theorem size_execute (p : Plan) (r : Run) (count : Nat) (c : Canvas dtype) :
    (c.execute p r count).buffer.size = c.buffer.size := by
  induction count generalizing r c with
  | zero => rfl
  | succ count ih => simp [execute, ih, copyRun]

@[simp] theorem size_applyAll (c : Canvas dtype) (plans : List Plan) :
    (c.applyAll plans).buffer.size = c.buffer.size := by
  induction plans generalizing c with
  | nil => rfl
  | cons p plans ih => exact (ih (c.apply p)).trans (by simp [apply])

@[simp] theorem size_blank (size : Nat) (marked : Bool) :
    (blank dtype size marked).buffer.size = size := by simp [blank]

/-- How many marks are zero, and where the first of them stands. -/
def uncovered (marks : Array UInt8) : Nat × Option Nat :=
  ((marks.toList.filter (· == 0)).length, marks.toList.findIdx? (· == 0))

end Canvas

/-- How many runs the plans describe, added up in rounded arithmetic. -/
def Plan.totalRuns (plans : List Plan) : Number :=
  plans.foldl (fun sum p => sum + p.runCount) Number.zero

end CubeSlice
