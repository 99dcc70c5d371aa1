import CubeSlice.Proofs.Number.Printed
import CubeSlice.Proofs.Slice.Statistics

/-!
# Summary lines

A summary is told in one line of words. Those for least and greatest element show printed numbers, and for finite
elements they read in the order in which they should be.
-/

namespace CubeSlice

open Number

attribute [local irreducible] unitsInOne twoTo tenTo

theorem Number.blank_notMem_text (x : Number) : ' ' ∉ x.text.toList := by
  cases x with
  | nan => decide
  | infinite negative => cases negative <;> decide
  | finite s n held =>
    intro hBlank
    exact absurd (isLiteralChar_of_mem_text s held hBlank) (by decide)

namespace Summary

/-- The words of the line. -/
def words (s : Summary) : List String :=
  ["shape=[" ++ s.rows.text ++ ",", s.cols.text ++ "]", "min=" ++ s.min.printed, "max=" ++ s.max.printed,
    "mean=" ++ s.mean.printed, "zeros=" ++ s.zeros.text]

theorem blank_notMem_words (s : Summary) : ∀ word ∈ s.words.map String.toList, ' ' ∉ word := by
  have hText {front : List Char} (hFront : ' ' ∉ front) (x : Number) : ' ' ∉ front ++ x.text.toList :=
    List.not_mem_append hFront x.blank_notMem_text
  simp only [words, List.map_cons, List.map_nil, List.forall_mem_cons, String.toList_append]
  refine ⟨?_, ?_, ?_, ?_, ?_, ?_, List.forall_mem_nil _⟩
  · exact List.not_mem_append (hText (by decide) _) (by decide)
  · exact List.not_mem_append s.cols.blank_notMem_text (by decide)
  · exact hText (by decide) _
  · exact hText (by decide) _
  · exact hText (by decide) _
  · exact hText (by decide) _

theorem splitOn_line (s : Summary) : s.line.toList.splitOn ' ' = s.words.map String.toList := by
  have hComma : ",".toList = [','] := by decide
  have hBracket : "]".toList = [']'] := by decide
  have hCols : ", ".toList = [',', ' '] := by decide
  have hMin : "] min=".toList = [']', ' '] ++ "min=".toList := by decide
  have hMax : " max=".toList = ' ' :: "max=".toList := by decide
  have hMean : " mean=".toList = ' ' :: "mean=".toList := by decide
  have hZeros : " zeros=".toList = ' ' :: "zeros=".toList := by decide
  have hLine : s.line.toList = [' '].intercalate (s.words.map String.toList) := by
    unfold line
    simp only [String.toList_append, hCols, hMin, hMax, hMean, hZeros]
    simp only [words, printed, List.map_cons, List.map_nil, String.toList_append, hComma, hBracket, List.intercalate,
      List.intersperse, List.flatten_cons, List.flatten_nil, List.append_assoc, List.cons_append, List.nil_append,
      List.append_nil]
  rw [hLine]
  exact List.splitOn_intercalate ' ' s.blank_notMem_words (List.cons_ne_nil _ _)

end Summary

namespace Slice

variable {s : Slice}

theorem min_le_max (h : s.IsFinite) : s.summary.min.isFinite = true ∧ s.summary.max.isFinite = true ∧
    s.summary.min.le s.summary.max = true := by
  have hNumber {x : Number} (hx : x.isFinite = true) : x.isNaN = false := by
    cases x with
    | nan => cases hx
    | infinite negative => rfl
    | finite negative n held => rfl
  have hSome : ∃ x ∈ s.toList, x.isNaN = false := by
    have hPos : 0 < s.toList.length := by
      rw [s.length_toList]
      exact Nat.mul_pos s.extent.rows_pos s.extent.cols_pos
    exact ⟨s.toList[0], List.getElem_mem hPos, hNumber (h _ (List.getElem_mem hPos))⟩
  have hMin := s.isExtreme_min.attained hSome
  have hMax := s.isExtreme_max.attained hSome
  exact ⟨h _ hMin, h _ hMax, s.isExtreme_min.first _ hMax (hNumber (h _ hMax))⟩

theorem text_ofNat_of_le {n : Nat} (h : n ≤ s.rows * s.cols) : (ofNat n).text = toString n := by
  have hExact : (n : Int).natAbs ≤ exactLimit := le_exactLimit (Nat.le_trans h s.extent.size_safe)
  have hNatural : ofInt n = ofNat n := by
    rw [ofInt, ofNat, Int.natAbs_natCast, decide_eq_false (Int.not_lt.mpr (Int.natCast_nonneg n))]
  rw [← hNatural, text_ofInt hExact]
  rfl

theorem text_counts (s : Slice) : s.summary.rows.text = toString s.rows ∧ s.summary.cols.text = toString s.cols ∧
    s.summary.zeros.text = toString (s.toList.countP isZero) := by
  refine ⟨text_ofNat_of_le s.extent.rows_le_size, text_ofNat_of_le s.extent.cols_le_size, ?_⟩
  rw [summary_zeros]
  exact text_ofNat_of_le (s.length_toList ▸ List.countP_le_length)

theorem line_eq (s : Slice) : s.summary.line = "shape=[" ++ toString s.rows ++ ", " ++ toString s.cols ++
    "] min=" ++ s.summary.min.printed ++ " max=" ++ s.summary.max.printed ++ " mean=" ++ s.summary.mean.printed ++
    " zeros=" ++ toString (s.toList.countP isZero) := by
  obtain ⟨hRows, hCols, hZeros⟩ := s.text_counts
  unfold Summary.line
  rw [hRows, hCols, hZeros]
  simp only [printed]

theorem line_transpose (s : Slice) : s.transpose.summary.line = "shape=[" ++ toString s.cols ++ ", " ++
    toString s.rows ++ "] min=" ++ s.summary.min.printed ++ " max=" ++ s.summary.max.printed ++ " mean=" ++
    s.transpose.summary.mean.printed ++ " zeros=" ++ toString (s.toList.countP isZero) := by
  have hPerm := s.perm_toList_transpose
  obtain ⟨hMin, hMax, -⟩ := summary_of_perm hPerm
  have hMinText : s.transpose.summary.min.printed = s.summary.min.printed := hMin.text_sixDigits_eq
  have hMaxText : s.transpose.summary.max.printed = s.summary.max.printed := hMax.text_sixDigits_eq
  rw [line_eq, hMinText, hMaxText, hPerm.countP_eq]
  rfl

theorem splitOn_line (s : Slice) : s.summary.line.toList.splitOn ' ' =
    ["shape=[" ++ toString s.rows ++ ",", toString s.cols ++ "]", "min=" ++ s.summary.min.printed,
      "max=" ++ s.summary.max.printed, "mean=" ++ s.summary.mean.printed,
      "zeros=" ++ toString (s.toList.countP isZero)].map String.toList := by
  obtain ⟨hRows, hCols, hZeros⟩ := s.text_counts
  rw [Summary.splitOn_line, Summary.words, hRows, hCols, hZeros]

/-- Printing a finite number rounds it as it should, keeps the order, stays finite, changes nothing that has been
printed before, and leaves integers of up to six digits as they are. The line of a summary shows the printed
numbers, and so never the least of finite elements above the greatest. -/
theorem line_faithful :
    (∀ x : Number, x.isFinite = true → x.CutsTo x.sixDigits ∧ x.sixDigits.EqUpToSign x.readAgain) ∧
    (∀ x y : Number, x.isFinite = true → y.isFinite = true → x.le y = true → x.readAgain.le y.readAgain = true) ∧
    (∀ s : Slice, s.summary.line.toList.splitOn ' ' =
      ["shape=[" ++ toString s.rows ++ ",", toString s.cols ++ "]", "min=" ++ s.summary.min.printed,
        "max=" ++ s.summary.max.printed, "mean=" ++ s.summary.mean.printed,
        "zeros=" ++ toString (s.toList.countP isZero)].map String.toList) ∧
    (∀ s : Slice, s.IsFinite →
      (ofText s.summary.min.printed.toList).le (ofText s.summary.max.printed.toList) = true) ∧
    (∀ x : Number, x.isFinite = true → x.readAgain.isFinite = true ∧ x.readAgain.printed = x.printed) ∧
    ∀ (x : Number) (z : Int), x.toInt? = some z → z.natAbs < 1000000 →
      x.printed = toString z ∧ x.EqUpToSign x.readAgain := by
  refine ⟨fun x hx => ⟨cutsTo_sixDigits hx, ?_⟩, fun _ _ => readAgain_le_readAgain, splitOn_line, fun s hs => ?_,
    fun x hx => ⟨isFinite_readAgain hx, x.printed_readAgain⟩, fun x z hInt hz => ⟨printed_of_toInt? hInt hz, ?_⟩⟩
  · exact readAgain_eq x ▸ equpToSign_asWritten _
  · obtain ⟨hMin, hMax, hOrder⟩ := min_le_max hs
    have hRead := readAgain_le_readAgain hMin hMax hOrder
    rwa [readAgain, readAgain] at hRead
  · rw [readAgain_eq, sixDigits_of_toInt? hInt hz]
    exact equpToSign_asWritten x

theorem holds_one : Format.binary64.Holds 1 :=
  ⟨by decide +kernel, 1, 0, by decide +kernel, Nat.le_refl 0, by decide +kernel⟩

theorem line_faithful_least : ∃ (x y : Number) (s : Slice), s.toList = [x, y] ∧ x.le y = true ∧
    x.CutsTo x.sixDigits ∧ x.readAgain.le y.readAgain = true ∧ x.readAgain.printed = x.printed ∧
    y.printed = "999999" ∧ (ofText s.summary.min.printed.toList).le (ofText s.summary.max.printed.toList) = true ∧
    s.summary.line.toList.splitOn ' ' =
      ["shape=[1,", "2]", "min=" ++ s.summary.min.printed, "max=" ++ s.summary.max.printed,
        "mean=" ++ s.summary.mean.printed, "zeros=0"].map String.toList := by
  let s : Slice := ⟨⟨1, 2, by decide, by decide, by decide⟩, .double,
    ⟨#[finite false 1 holds_one, ofInt 999999], fun _ _ => rfl⟩, rfl⟩
  have hElements : s.toList = [finite false 1 holds_one, ofInt 999999] := rfl
  have hInteger : (ofInt 999999).toInt? = some 999999 := toInt?_ofInt (by decide)
  have hSecond : (ofInt 999999).isFinite = true := by decide +kernel
  have hOrder : (finite false 1 holds_one).le (ofInt 999999) = true := by decide +kernel
  have hFinite : s.IsFinite := by
    intro z hz
    rw [hElements] at hz
    rcases List.mem_pair.mp hz with hZ | hZ
    · rw [hZ]
      rfl
    · rw [hZ]
      exact hSecond
  obtain ⟨hCuts, hKeeps, hLine, hLeast, hSame, hIntegers⟩ := line_faithful
  have hZeros : s.toList.countP isZero = 0 := by decide +kernel
  have hRows : "shape=[" ++ toString s.rows ++ "," = "shape=[1," := by decide +kernel
  have hCols : toString s.cols ++ "]" = "2]" := by decide +kernel
  have hWords := hLine s
  rw [hZeros, hRows, hCols] at hWords
  exact ⟨_, _, s, hElements, hOrder, (hCuts _ rfl).1, hKeeps _ _ rfl hSecond hOrder, (hSame _ rfl).2,
    (hIntegers _ _ hInteger (by decide)).1, hLeast s hFinite, hWords⟩

end Slice

end CubeSlice
