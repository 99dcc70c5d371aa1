import CubeSlice.Number.Significant
import CubeSlice.Slice.Basic

/-!
# Summaries

Least and greatest element, mean and number of zeros of a slice, and the line that shows them with
six significant digits. Elements that are not numbers count neither as least nor as greatest.
-/

namespace CubeSlice

structure Summary where
  rows : Number
  cols : Number
  min : Number
  max : Number
  mean : Number
  zeros : Number

namespace Summary

structure Tally where
  min : Number
  max : Number
  total : Number
  zeros : Nat

def Tally.empty : Tally := ⟨.infinite false, .infinite true, .zero, 0⟩

def Tally.add (t : Tally) (x : Number) : Tally where
  min := if x.lt t.min then x else t.min
  max := if t.max.lt x then x else t.max
  total := t.total + x
  zeros := if x.isZero then t.zeros + 1 else t.zeros

def tally (xs : List Number) : Tally := xs.foldl Tally.add .empty

def line (s : Summary) : String :=
  "shape=[" ++ s.rows.text ++ ", " ++ s.cols.text ++ "] min=" ++ s.min.sixDigits.text ++
    " max=" ++ s.max.sixDigits.text ++ " mean=" ++ s.mean.sixDigits.text ++
    " zeros=" ++ s.zeros.text

end Summary

def Slice.summary (s : Slice) : Summary :=
  let t := Summary.tally s.toList
  { rows := Number.ofNat s.rows
    cols := Number.ofNat s.cols
    min := t.min
    max := t.max
    mean := t.total / Number.ofNat s.size
    zeros := Number.ofNat t.zeros }

end CubeSlice
