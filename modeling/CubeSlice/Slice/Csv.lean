import CubeSlice.Slice.Basic

/-!
# Slices as CSV

One line per row, its elements joined by commas and each line closed by a line feed.
-/

namespace CubeSlice.Slice

def csvLine (row : List Number) : String := ",".intercalate (row.map Number.text) ++ "\n"

def toCsv (s : Slice) : String := String.join (s.toRows.map csvLine)

end CubeSlice.Slice
