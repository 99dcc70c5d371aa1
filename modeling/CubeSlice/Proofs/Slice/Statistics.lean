import Mathlib.Algebra.BigOperators.Group.List.Basic
import Mathlib.Algebra.Order.BigOperators.Group.List
import CubeSlice.Proofs.Number.Quotient
import CubeSlice.Proofs.Slice.Summary

/-!
# Statistics of a slice

What a summary says of the elements, whatever their order: least and greatest of those that are numbers, how
many are zero, and, where the elements are integers that can be added up exactly, the mean.
-/

namespace CubeSlice

open Number

/-- `m` ranks before all elements that are numbers and is one of the elements; if no element is a number, it is
what there is for nothing. -/
structure IsExtreme (ranks : Number → Number → Bool) (nothing : Number) (xs : List Number) (m : Number) : Prop where
  first : ∀ x ∈ xs, x.isNaN = false → ranks m x = true
  attained : (∃ x ∈ xs, x.isNaN = false) → m ∈ xs
  empty : (∀ x ∈ xs, x.isNaN = true) → m = nothing

/-- The elements are integers, and their magnitudes add up to at most `2 ^ 53`. -/
structure Summable (xs : List Number) : Prop where
  integers : ∀ x ∈ xs, x.value? = some (x.whole : ℚ)
  bounded : (xs.map fun x => x.whole.natAbs).sum ≤ exactLimit

namespace Summary

theorem total_tally (xs : List Number) (t : Tally) : (xs.foldl Tally.add t).total = xs.foldl (· + ·) t.total := by
  induction xs generalizing t with
  | nil => rfl
  | cons x xs ih => exact ih (t.add x)

/-- No partial sum of integers is rounded as long as the magnitudes stay below the limit. -/
theorem foldl_add_eq_ofInt {xs : List Number} (hIntegers : ∀ x ∈ xs, x.value? = some (x.whole : ℚ)) (c : Int)
    (hBound : c.natAbs + (xs.map fun x => x.whole.natAbs).sum ≤ exactLimit) :
    xs.foldl (· + ·) (ofInt c) = ofInt (c + (xs.map whole).sum) := by
  induction xs generalizing c with
  | nil => rw [List.foldl_nil, List.map_nil, List.sum_nil, Int.add_zero]
  | cons x xs ih =>
    rw [List.map_cons, List.sum_cons] at hBound
    have hInteger := value?_intCast_iff.mp (hIntegers x List.mem_cons_self)
    have hNext := Int.natAbs_add_le c x.whole
    rw [List.foldl_cons, ofInt_add (by omega) hInteger,
      ih (fun y hy => hIntegers y (List.mem_cons_of_mem x hy)) _ (by omega), List.map_cons, List.sum_cons,
      Int.add_assoc]

end Summary

theorem Summable.total_eq {xs : List Number} (h : Summable xs) :
    (Summary.tally xs).total = ofInt (xs.map whole).sum := by
  have hZero : Summary.Tally.empty.total = ofInt 0 := by decide +kernel
  rw [Summary.tally, Summary.total_tally, hZero, Summary.foldl_add_eq_ofInt h.integers 0, Int.zero_add]
  rw [Int.natAbs_zero, Nat.zero_add]
  exact h.bounded

theorem Summable.natAbs_sum_le {xs : List Number} (h : Summable xs) : (xs.map whole).sum.natAbs ≤ exactLimit := by
  refine Nat.le_trans (List.le_sum_of_subadditive Int.natAbs Int.natAbs_zero.le Int.natAbs_add_le (xs.map whole)) ?_
  rw [List.map_map]
  exact h.bounded

theorem Summable.of_perm {xs ys : List Number} (h : Summable xs) (hPerm : ys.Perm xs) : Summable ys where
  integers x hx := h.integers x (hPerm.mem_iff.mp hx)
  bounded := by
    rw [(hPerm.map _).sum_eq]
    exact h.bounded

theorem Number.IsFirst.isExtreme {prefers ranks : Number → Number → Bool} (hRanking : Ranking prefers ranks)
    {nothing m : Number} {xs : List Number} (h : IsFirst ranks nothing xs m)
    (hLast : ∀ x, ranks nothing x = true → x = nothing) : IsExtreme ranks nothing xs m where
  first := h.first
  attained := by
    rintro ⟨x, hx, hNumber⟩
    rcases h.mem with rfl | hMem
    · rwa [hLast x (h.first x hx hNumber)] at hx
    · exact hMem
  empty hNone := by
    refine h.mem.resolve_right fun hMem => ?_
    have hNumber := hRanking.isNaN h.start
    rw [hNone m hMem] at hNumber
    cases hNumber

namespace Slice

variable (s : Slice)

theorem isExtreme_min : IsExtreme (fun x y => x.le y) (.infinite false) s.toList s.summary.min := by
  refine s.isFirst_min.isExtreme ranking_least fun x h => ?_
  cases x with
  | nan => cases h
  | infinite negative => cases negative <;> first | rfl | cases h
  | finite negative n held => cases h

theorem isExtreme_max : IsExtreme (fun x y => y.le x) (.infinite true) s.toList s.summary.max := by
  refine s.isFirst_max.isExtreme ranking_greatest fun x h => ?_
  cases x with
  | nan => cases h
  | infinite negative => cases negative <;> first | rfl | cases h
  | finite negative n held => cases h

variable {s} {t : Slice}

theorem mean_eq (h : Summable s.toList) :
    s.summary.mean = ofInt (s.toList.map whole).sum / Number.ofNat (s.rows * s.cols) := by
  rw [summary, h.total_eq, size, s.size_eq]
  rfl

theorem mean_nearestTo (h : Summable s.toList) :
    s.summary.mean.NearestTo ((s.toList.map whole).sum / (s.rows * s.cols : Nat)) := by
  have hSize : (Number.ofNat (s.rows * s.cols)).index? = some (s.rows * s.cols) :=
    index?_ofNat (le_exactLimit s.extent.size_safe)
  have hPos : 0 < s.rows * s.cols := Nat.mul_pos s.extent.rows_pos s.extent.cols_pos
  have hSum : |((s.toList.map whole).sum : ℚ)| ≤ exactLimit := by
    rw [← Int.cast_abs, Int.abs_eq_natAbs, Int.cast_natCast]
    exact_mod_cast h.natAbs_sum_le
  rw [mean_eq h]
  refine nearestTo_div (value?_intCast_iff.mpr (toInt?_ofInt h.natAbs_sum_le)) (value?_natCast_iff.mpr hSize)
    (Nat.cast_ne_zero.mpr hPos.ne') ?_
  rw [abs_div, Nat.abs_cast]
  exact (div_le_self (abs_nonneg _) (by exact_mod_cast hPos)).trans hSum

theorem mean_eq_of_perm (h : Summable s.toList) (hPerm : t.toList.Perm s.toList) : t.summary.mean = s.summary.mean := by
  have hSize : t.rows * t.cols = s.rows * s.cols := by
    rw [← length_toList, ← length_toList, hPerm.length_eq]
  rw [mean_eq h, mean_eq (h.of_perm hPerm), hSize, (hPerm.map whole).sum_eq]

theorem index?_zeros (s : Slice) :
    s.summary.zeros.index? = some (s.toList.countP fun x => x.value? = some 0) := by
  have hSame : s.toList.countP (fun x => x.value? = some 0) = s.toList.countP Number.isZero :=
    List.countP_congr fun x _ => by rw [decide_eq_true_iff, isZero_iff_value?]
  have hCount : s.toList.countP Number.isZero ≤ s.rows * s.cols := s.length_toList ▸ List.countP_le_length
  rw [summary_zeros, hSame]
  exact index?_ofNat (le_exactLimit (Nat.le_trans hCount s.extent.size_safe))

theorem summary_shape (s : Slice) : [s.summary.rows, s.summary.cols] = s.shape := by
  rw [summary, shape, Extent.shape, rows, cols]

/-- What a summary tells is true of the elements and does not depend on their order: least and greatest number,
the number of zeros, and of integers that can be added up exactly the mean, which is rounded once. -/
theorem summary_statistics (s : Slice) :
    [s.summary.rows, s.summary.cols] = s.shape ∧
    IsExtreme (fun x y => x.le y) (.infinite false) s.toList s.summary.min ∧
    IsExtreme (fun x y => y.le x) (.infinite true) s.toList s.summary.max ∧
    s.summary.zeros.index? = some (s.toList.countP fun x => x.value? = some 0) ∧
    (∀ t : Slice, t.toList.Perm s.toList →
      t.summary.min.EqUpToSign s.summary.min ∧ t.summary.max.EqUpToSign s.summary.max ∧
        t.summary.zeros = s.summary.zeros) ∧
    s.transpose.toList.Perm s.toList ∧
    (Summable s.toList →
      s.summary.mean.NearestTo ((s.toList.map whole).sum / (s.rows * s.cols : Nat)) ∧
      ∀ t : Slice, t.toList.Perm s.toList → t.summary.mean = s.summary.mean) :=
  ⟨s.summary_shape, s.isExtreme_min, s.isExtreme_max, s.index?_zeros, fun _ => summary_of_perm,
    s.perm_toList_transpose, fun h => ⟨mean_nearestTo h, fun _ => mean_eq_of_perm h⟩⟩

theorem summary_statistics_thirds : ∃ s : Slice, s.toList = [-1, 0, 2].map ofInt ∧ Summable s.toList ∧
    s.summary.mean.NearestTo (1 / 3) ∧ s.transpose.summary.mean = s.summary.mean := by
  let s : Slice := ⟨⟨1, 3, by decide, by decide, by decide⟩, .double,
    ⟨#[ofInt (-1), ofInt 0, ofInt 2], fun _ _ => rfl⟩, rfl⟩
  have hElements : s.toList = [-1, 0, 2].map ofInt := rfl
  have hInteger : ∀ z ∈ [-1, 0, 2], (ofInt z).toInt? = some z := by
    have hSmall : ∀ z ∈ ([-1, 0, 2] : List Int), z.natAbs ≤ exactLimit := by decide
    exact fun z hz => toInt?_ofInt (hSmall z hz)
  have hWhole {β : Type} (f : Int → β) : (s.toList.map fun x => f x.whole) = [-1, 0, 2].map f := by
    rw [hElements, List.map_map]
    exact List.map_congr_left fun z hz => congrArg f (whole_of_toInt? (hInteger z hz))
  have hSummable : Summable s.toList := by
    refine ⟨fun x hx => ?_, by rw [hWhole Int.natAbs]; decide⟩
    rw [hElements] at hx
    obtain ⟨z, hz, rfl⟩ := List.mem_map.mp hx
    rw [whole_of_toInt? (hInteger z hz)]
    exact value?_intCast_iff.mpr (hInteger z hz)
  have hSum : (s.toList.map whole).sum = 1 := (congrArg List.sum (hWhole id)).trans (by decide)
  have hSize : s.rows * s.cols = 3 := rfl
  obtain ⟨-, -, -, -, -, hTurned, hMean⟩ := summary_statistics s
  obtain ⟨hNearest, hSame⟩ := hMean hSummable
  rw [hSum, hSize, Int.cast_one] at hNearest
  exact ⟨s, hElements, hSummable, hNearest, hSame _ hTurned⟩

end Slice

end CubeSlice
