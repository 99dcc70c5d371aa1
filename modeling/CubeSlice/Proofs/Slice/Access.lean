import CubeSlice.Failure
import CubeSlice.Proofs.Number.Exact
import CubeSlice.Proofs.Slice.Elements
import CubeSlice.Proofs.Text.Wide
import CubeSlice.Proofs.Tile.Scatter

/-!
# Reading a slice

One element can be asked for in four ways: by its indices, in its row, in the list of rows, and in the flat
list. `Slice.Reads` says when there is one, that all ways lead to it, and what the failure tells otherwise.
Transposing exchanges the indices, and two loops that write each offset once come to the same
(`Slice.get?_writeTransposed`).
-/

namespace CubeSlice

namespace Slice

open Number

/-- The number is the integer `n`, and `n` is below the limit. -/
def IsIndex (x : Number) (n limit : Nat) : Prop := x.value? = some (n : ℚ) ∧ n < limit

structure IsAbout (f : Failure) (axis : Axis) (index : Number) (limit : Nat) : Prop where
  name : f.name = "OutOfBoundsError"
  bounds : f.bounds? = some ⟨"index", index, index + Number.ofNat 1, Number.ofNat limit⟩
  message : f.message = axis.name ++ " index " ++ index.text ++ " out of range [0, " ++ toString limit ++ ")"

/-- The element in row `p` and column `q`, in each way in which a slice shows it. Offsets are computed from the
indices in rounded arithmetic. -/
structure Shows (s : Slice) (i j : Number) (p q : Nat) (x : Number) : Prop where
  row : ∃ values, s.row? i = .ok values ∧ values[q]? = some x
  rows : ∃ values, s.toRows[p]? = some values ∧ values[q]? = some x
  flat : ∃ o, (i * Number.ofNat s.cols + j).index? = some o ∧ s.toList[o]? = some x
  strided : ∃ step rest o, s.strides = step :: rest ∧ (i * step + j).index? = some o ∧ s.toList[o]? = some x

/-- What reading at two indices comes to. -/
inductive Reads (s : Slice) (i j : Number) : Except Failure Number → Prop
  | element {p q : Nat} {x : Number} (row : IsIndex i p s.rows) (column : IsIndex j q s.cols)
      (shown : s.Shows i j p q x) : Reads s i j (.ok x)
  | row {f : Failure} (bad : ∀ p, ¬ IsIndex i p s.rows) (about : IsAbout f .row i s.rows) : Reads s i j (.error f)
  | column {f : Failure} {p : Nat} (row : IsIndex i p s.rows) (bad : ∀ q, ¬ IsIndex j q s.cols)
      (about : IsAbout f .column j s.cols) : Reads s i j (.error f)

variable {x i j : Number} {p q limit : Nat} {axis : Axis}

theorem IsIndex.index? (h : IsIndex x p limit) : x.index? = some p := value?_natCast_iff.mp h.1

theorem IsIndex.checkIndex_eq (h : IsIndex x p limit) : checkIndex axis x limit = .ok ⟨p, h.2⟩ :=
  checkIndex_of_index? axis h.index? h.2

theorem checkIndex_eq_error (h : ∀ p, ¬ IsIndex x p limit) : checkIndex axis x limit = .error ⟨axis, x, limit⟩ := by
  have hNone : Slice.index? x limit = none := by
    unfold Slice.index?
    cases hInt : x.toInt? with
    | none => rfl
    | some z =>
      refine dif_neg fun hInside => h z.toNat ⟨?_, by omega⟩
      rw [value?_natCast_iff, index?_eq_some_iff_toInt?, hInt, Int.toNat_of_nonneg hInside.1]
  rw [checkIndex, hNone]

variable (s : Slice)

theorem get?_data (hp : p < s.rows) (hq : q < s.cols) : s.data.get? (p * s.cols + q) = some (s.get p q hp hq) :=
  Array.getElem?_eq_getElem _

theorem getElem?_toList (hp : p < s.rows) (hq : q < s.cols) : s.toList[p * s.cols + q]? = some (s.get p q hp hq) := by
  rw [toList, Array.getElem?_toList]
  exact s.get?_data hp hq

theorem index?_offset (hi : IsIndex i p s.rows) (hj : IsIndex j q s.cols) {step : Number}
    (hStep : step.index? = some s.cols) : (i * step + j).index? = some (p * s.cols + q) := by
  have hOffset : p * s.cols + q ≤ exactLimit :=
    le_exactLimit (Nat.le_trans (Nat.le_of_lt (s.extent.offset_lt hi.2 hj.2)) s.extent.size_safe)
  exact index?_add (index?_mul hi.index? hStep (Nat.le_trans (Nat.le_add_right _ _) hOffset)) hj.index? hOffset

theorem strides_eq : s.strides = [Number.ofNat 1 * Number.ofNat s.cols, Number.ofNat 1] := by
  simp only [strides, shape, Extent.shape, Shape.strides, Shape.stridesAndSize, List.foldr_cons, List.foldr_nil]
  rfl

theorem shows_get (hi : IsIndex i p s.rows) (hj : IsIndex j q s.cols) : s.Shows i j p q (s.get p q hi.2 hj.2) := by
  have hCols : (Number.ofNat s.cols).index? = some s.cols := index?_ofNat (le_exactLimit s.cols_le_maxSafe)
  have hStep : (Number.ofNat 1 * Number.ofNat s.cols).index? = some s.cols := by
    rw [index?_mul (index?_ofNat (by decide)) hCols (by rw [Nat.one_mul]; exact le_exactLimit s.cols_le_maxSafe),
      Nat.one_mul]
  have hElement := s.getElem?_rowValues hi.2 hj.2
  refine ⟨⟨_, ?_, hElement⟩, ⟨_, s.getElem?_toRows hi.2, hElement⟩, ⟨_, s.index?_offset hi hj hCols, ?_⟩,
    ⟨_, _, _, s.strides_eq, s.index?_offset hi hj hStep, ?_⟩⟩
  · rw [row?, hi.checkIndex_eq]
    rfl
  · exact s.getElem?_toList hi.2 hj.2
  · exact s.getElem?_toList hi.2 hj.2

theorem at?_of_isIndex (hi : IsIndex i p s.rows) (hj : IsIndex j q s.cols) :
    s.at? i j = .ok (s.get p q hi.2 hj.2) := by
  rw [at?, hi.checkIndex_eq, hj.checkIndex_eq]
  rfl

theorem reads_at? (i j : Number) : s.Reads i j ((s.at? i j).mapError .index) := by
  have hAbout (axis : Axis) (x : Number) (limit : Nat) : IsAbout (.index ⟨axis, x, limit⟩) axis x limit :=
    ⟨rfl, rfl, by simp only [Failure.message, IndexError.message, WideText.ofString_append]⟩
  by_cases hRow : ∃ p, IsIndex i p s.rows
  · obtain ⟨p, hi⟩ := hRow
    by_cases hColumn : ∃ q, IsIndex j q s.cols
    · obtain ⟨q, hj⟩ := hColumn
      rw [s.at?_of_isIndex hi hj]
      exact .element hi hj (s.shows_get hi hj)
    · rw [at?, hi.checkIndex_eq, checkIndex_eq_error (not_exists.mp hColumn)]
      exact .column hi (not_exists.mp hColumn) (hAbout .column j s.cols)
  · rw [at?, checkIndex_eq_error (not_exists.mp hRow)]
    exact .row (not_exists.mp hRow) (hAbout .row i s.rows)

theorem get_transpose (hp : p < s.rows) (hq : q < s.cols) : s.transpose.get q p hq hp = s.get p q hp hq := by
  have hOffset : q * s.rows + p < s.rows * s.cols := by
    rw [Nat.mul_comm s.rows]
    exact mul_add_lt hq hp
  have hTurned : s.transpose.data.get? (q * s.rows + p) = s.data.get? (p * s.cols + q) := by
    rw [s.get?_transpose hOffset, Nat.mul_add_mod_of_lt hp, mul_add_div_of_lt hp]
  exact Option.some.inj ((s.transpose.get?_data hq hp).symm.trans (hTurned.trans (s.get?_data hp hq)))

theorem get?_eq_get {o : Nat} (ho : o < s.extent.size) :
    ∃ hRow hColumn, s.data.get? o = some (s.get (o / s.cols) (o % s.cols) hRow hColumn) := by
  have hRow : o / s.cols < s.rows := Nat.div_lt_of_lt_mul (Nat.lt_of_lt_of_eq ho (Nat.mul_comm _ _))
  have hColumn : o % s.cols < s.cols := Nat.mod_lt o s.extent.cols_pos
  refine ⟨hRow, hColumn, ?_⟩
  rw [← s.get?_data hRow hColumn, Nat.mul_comm, Nat.div_add_mod]

theorem ext_get {s t : Slice} (hExtent : s.extent = t.extent) (hDType : s.dtype = t.dtype)
    (h : ∀ p q hp hq hp' hq', s.get p q hp hq = t.get p q hp' hq') : s = t := by
  have hData (o : Nat) : s.data.get? o = t.data.get? o := by
    rcases Nat.lt_or_ge o s.extent.size with ho | ho
    · obtain ⟨hRow, hColumn, hHere⟩ := s.get?_eq_get ho
      obtain ⟨hRow', hColumn', hThere⟩ := t.get?_eq_get (hExtent ▸ ho)
      have hCols : s.cols = t.cols := congrArg Extent.cols hExtent
      rw [hHere, hThere]
      simp only [hCols] at hRow hColumn ⊢
      exact congrArg some (h _ _ _ _ _ _)
    · have hOut : s.data.get? o = none := Array.getElem?_eq_none (s.size_eq.trans_le ho)
      have hOut' : t.data.get? o = none := Array.getElem?_eq_none (t.size_eq.trans_le (hExtent ▸ ho))
      rw [hOut, hOut']
  obtain ⟨extent, dtype, data, hSize⟩ := s
  obtain ⟨extent', dtype', data', hSize'⟩ := t
  obtain rfl : extent = extent' := hExtent
  obtain rfl : dtype = dtype' := hDType
  obtain rfl : data = data' := Buffer.ext hData
  rfl

theorem transpose_transpose : s.transpose.transpose = s :=
  ext_get rfl rfl fun _ _ _ _ hp hq => (s.transpose.get_transpose hq hp).trans (s.get_transpose hp hq)

theorem isIndex_of_at? (h : s.at? i j = .ok x) : (∃ p, IsIndex i p s.rows) ∧ ∃ q, IsIndex j q s.cols := by
  have hReads := s.reads_at? i j
  rw [h] at hReads
  cases hReads with
  | element hi hj _ => exact ⟨⟨_, hi⟩, _, hj⟩

theorem at?_transpose (h : s.at? i j = .ok x) : s.transpose.at? j i = .ok x := by
  obtain ⟨⟨p, hi⟩, q, hj⟩ := s.isIndex_of_at? h
  rw [← h, s.at?_of_isIndex hi hj, ← s.get_transpose hi.2 hj.2]
  exact s.transpose.at?_of_isIndex hj hi

theorem at?_transpose_iff : s.transpose.at? j i = .ok x ↔ s.at? i j = .ok x := by
  refine ⟨fun h => ?_, s.at?_transpose⟩
  rw [← s.transpose_transpose]
  exact s.transpose.at?_transpose h

/-- The transposed slice as two loops write it, row after row of the slice. -/
def writeTransposed (s : Slice) : Buffer s.dtype :=
  (List.range s.rows).foldl (fun b p => (List.range s.cols).foldl
    (fun b q => b.set (q * s.rows + p) (s.data.cells.getD (p * s.cols + q) Number.nan)) b)
    (Buffer.zeros s.dtype s.size)

def put? (s : Slice) (o p q : Nat) : Option Number :=
  if q * s.rows + p = o then some (s.dtype.round (s.data.cells.getD (p * s.cols + q) Number.nan)) else none

theorem put?_eq_some_iff {o : Nat} (hp : p < s.rows) (hq : q < s.cols) :
    s.put? o p q = some x ↔ q * s.rows + p = o ∧ x = s.get p q hp hq := by
  have hOffset : p * s.cols + q < s.data.cells.size := Nat.lt_of_lt_of_eq (s.extent.offset_lt hp hq) s.size_eq.symm
  rw [put?, Array.getD_eq_getD_getElem?, Array.getElem?_eq_getElem hOffset, Option.getD_some, s.data.rounded]
  split
  · rename_i hHere
    rw [Option.some.injEq, eq_comm]
    exact ⟨fun h => ⟨hHere, h⟩, And.right⟩
  · rename_i hElsewhere
    exact ⟨fun h => (by cases h), fun h => absurd h.1 hElsewhere⟩

theorem settles_writeTransposed (o : Nat) : s.writeTransposed.get? o =
    ((Buffer.zeros s.dtype s.size).get? o).map
      ((List.range s.rows).filterMap fun p => ((List.range s.cols).filterMap (s.put? o p)).getLast?).getLast?.getD := by
  have hCell (p q : Nat) : Settles (fun b : Buffer s.dtype => b.get? o)
      (fun b => b.set (q * s.rows + p) (s.data.cells.getD (p * s.cols + q) Number.nan)) (s.put? o p q) :=
    fun b => settles_setIfInBounds o (q * s.rows + p) _ b.cells
  have hRow (p : Nat) := Settles.foldl (List.range s.cols) fun q _ => hCell p q
  exact Settles.foldl (List.range s.rows) (fun p _ => hRow p) (Buffer.zeros s.dtype s.size)

/-- The offset in column `q` and row `p` is written, and only with the element of the slice there. -/
theorem getLast?_put? {o : Nat} (hp : p < s.rows) (hq : q < s.cols) (ho : q * s.rows + p = o) :
    ((List.range s.rows).filterMap fun p => ((List.range s.cols).filterMap (s.put? o p)).getLast?).getLast? =
      some (s.get p q hp hq) := by
  have hAgree {p' q' : Nat} {y : Number} (hp' : p' < s.rows) (hq' : q' < s.cols) (h : s.put? o p' q' = some y) :
      y = s.get p q hp hq := by
    obtain ⟨ho', rfl⟩ := (s.put?_eq_some_iff hp' hq').mp h
    obtain ⟨rfl, rfl⟩ := eq_of_mul_add_eq hp' hp (ho'.trans ho.symm)
    rfl
  apply getLast?_filterMap_of_agree
  · refine ⟨p, List.mem_range.mpr hp, getLast?_filterMap_of_agree ⟨q, List.mem_range.mpr hq, ?_⟩ ?_⟩
    · exact (s.put?_eq_some_iff hp hq).mpr ⟨ho, rfl⟩
    · exact fun q' hq' y => hAgree hp (List.mem_range.mp hq')
  · intro p' hp' y hLast
    obtain ⟨q', hq', hPut⟩ := List.mem_filterMap.mp (List.mem_of_getLast? hLast)
    exact hAgree (List.mem_range.mp hp') (List.mem_range.mp hq') hPut

theorem get?_writeTransposed (o : Nat) : s.writeTransposed.get? o = s.transpose.data.get? o := by
  rw [settles_writeTransposed]
  rcases Nat.lt_or_ge o s.transpose.extent.size with ho | ho
  · obtain ⟨hq, hp, hHere⟩ : ∃ (hq : o / s.rows < s.cols) (hp : o % s.rows < s.rows),
        s.transpose.data.get? o = some (s.transpose.get (o / s.rows) (o % s.rows) hq hp) :=
      s.transpose.get?_eq_get ho
    have hOffset : o / s.rows * s.rows + o % s.rows = o := by rw [Nat.mul_comm, Nat.div_add_mod]
    have hZero : (Buffer.zeros s.dtype s.size).get? o = some Number.zero := by
      have hSize : o < s.size := ho.trans_eq (s.extent.size_swap.trans s.size_eq.symm)
      rw [Buffer.get?, Buffer.zeros, Array.getElem?_replicate, if_pos hSize]
    rw [s.getLast?_put? hp hq hOffset, hZero, hHere, s.get_transpose hp hq]
    rfl
  · have hSize : s.size ≤ o := (s.size_eq.trans s.extent.size_swap.symm).trans_le ho
    have hNone : s.transpose.data.get? o = none := Array.getElem?_eq_none (s.transpose.size_eq.trans_le ho)
    rw [hNone, Buffer.get?, Buffer.zeros, Array.getElem?_replicate, if_neg (by omega)]
    rfl

/-- All ways to read a slice agree and refuse the same indices. Transposing exchanges rows and columns, loses
no element and keeps none twice, and is undone by transposing; it leaves what two loops over the slice write. -/
theorem reads_and_transposes (s : Slice) :
    (∀ i j, s.Reads i j ((s.at? i j).mapError .index)) ∧
    s.transpose.shape = [Number.ofNat s.cols, Number.ofNat s.rows] ∧ s.transpose.dtype = s.dtype ∧
    (∀ i j x, s.transpose.at? j i = .ok x ↔ s.at? i j = .ok x) ∧
    s.transpose.transpose = s ∧ s.transpose.toList.Perm s.toList ∧
    ∀ o : Nat, s.writeTransposed.get? o = s.transpose.data.get? o :=
  ⟨s.reads_at?, rfl, rfl, fun _ _ _ => s.at?_transpose_iff, s.transpose_transpose, s.perm_toList_transpose,
    s.get?_writeTransposed⟩

end Slice

end CubeSlice
