import CubeSlice.Number.Single

/-!
# Element types

A slice holds binary64 or binary32 elements. Elements of either type are kept as numbers; storing
one rounds it to the type.
-/

namespace CubeSlice

inductive DType where
  | single
  | double
  deriving DecidableEq, Repr

namespace DType

def name : DType → String
  | single => "f32"
  | double => "f64"

def format : DType → Format
  | single => Format.binary32
  | double => Format.binary64

def round : DType → Number → Number
  | single, x => x.toSingle
  | double, x => x

@[simp] theorem round_round (d : DType) (x : Number) : d.round (d.round x) = d.round x := by
  cases d
  · exact Number.toSingle_toSingle x
  · rfl

theorem round_zero (d : DType) : d.round Number.zero = Number.zero := by
  cases d
  · decide +kernel
  · rfl

end DType

end CubeSlice
