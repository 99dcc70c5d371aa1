import CubeSlice.Number.Natural

/-!
# Shapes

Dimensions and row-major strides. Sizes multiply from the left, strides from the right, each product
being rounded.
-/

namespace CubeSlice

namespace Number

def isDimension (x : Number) : Bool := x.isSafeInteger && zero.lt x

theorem isDimension_iff {x : Number} :
    x.isDimension = true ↔ ∃ n, x.index? = some n ∧ 0 < n ∧ n ≤ maxSafe := by
  rw [isDimension, Bool.and_eq_true]
  constructor
  · rintro ⟨hSafe, hPos⟩
    have hSign : x.lt zero = false := by
      cases hInt : x.toInt? with
      | none => simp [isSafeInteger, hInt] at hSafe
      | some i =>
        obtain ⟨s, u, held, rfl, -⟩ := exists_signed_of_toInt? hInt
        simp only [lt, zero, decide_eq_true_eq, decide_eq_false_iff_not] at hPos ⊢
        omega
    obtain ⟨n, hIndex, hLimit⟩ := safe_not_negative_iff.mp ⟨hSafe, hSign⟩
    exact ⟨n, hIndex, (lt_iff index?_zero hIndex).mp hPos, hLimit⟩
  · rintro ⟨n, hIndex, hPos, hLimit⟩
    exact ⟨(isSafeInteger_iff hIndex).mpr hLimit, (lt_iff index?_zero hIndex).mpr hPos⟩

end Number

namespace Shape

def size (shape : List Number) : Number := shape.foldl (· * ·) (Number.ofNat 1)

def stridesAndSize (shape : List Number) : List Number × Number :=
  shape.foldr (fun dim acc => (acc.2 :: acc.1, acc.2 * dim)) ([], Number.ofNat 1)

/-- How far apart neighbours along each dimension lie; the last dimension is contiguous. -/
def strides (shape : List Number) : List Number := (stridesAndSize shape).1

end Shape

end CubeSlice
