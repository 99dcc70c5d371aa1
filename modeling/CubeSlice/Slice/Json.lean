import CubeSlice.Json.Printer
import CubeSlice.Slice.Basic

/-!
# Slices as JSON

An object with the shape and the rows. Elements that are no finite numbers are written `null`.
-/

namespace CubeSlice.Slice

def toValue (s : Slice) : Json.Value :=
  .object [
    ("shape", .array (s.shape.map .number)),
    ("data", .array (s.toRows.map fun row => .array (row.map .number)))]

def toJson (s : Slice) : String := s.toValue.print

end CubeSlice.Slice
