import Mathlib.Data.Set.Card
import CubeSlice.Proofs.Slice.Assembly

/-!
# Coverage

To ask for coverage changes nothing but this: where some offset is written by no tile, the assembly
fails and tells how many such offsets there are, in exact integers, and which is the first.
-/

namespace CubeSlice

section Positions

variable {α : Type} {p : α → Bool}

def positions (p : α → Bool) (l : List α) : Set Nat := {i | ∃ a, l[i]? = some a ∧ p a = true}

theorem finite_positions (l : List α) : (positions p l).Finite := by
  refine (Set.finite_lt_nat l.length).subset ?_
  rintro i ⟨a, ha, -⟩
  obtain ⟨hi, -⟩ := List.getElem?_eq_some_iff.mp ha
  exact hi

theorem positions_cons_of_pos {a : α} (l : List α) (h : p a = true) :
    positions p (a :: l) = insert 0 (Nat.succ '' positions p l) := by
  ext i
  cases i with
  | zero => simp [positions, h]
  | succ i => simp [positions]

theorem positions_cons_of_neg {a : α} (l : List α) (h : p a = false) :
    positions p (a :: l) = Nat.succ '' positions p l := by
  ext i
  cases i with
  | zero => simp [positions, h]
  | succ i => simp [positions]

theorem length_filter_eq_ncard (l : List α) : (l.filter p).length = (positions p l).ncard := by
  induction l with
  | nil => simp [positions]
  | cons a l ih =>
    have hImage : (Nat.succ '' positions p l).ncard = (positions p l).ncard :=
      Set.ncard_image_of_injective _ Nat.succ_injective
    cases h : p a with
    | true =>
      have hNew : 0 ∉ Nat.succ '' positions p l := by simp
      rw [List.filter_cons_of_pos h, List.length_cons, ih, positions_cons_of_pos l h,
        Set.ncard_insert_of_notMem hNew ((finite_positions l).image _), hImage]
    | false =>
      rw [List.filter_cons_of_neg (by simp [h]), ih, positions_cons_of_neg l h, hImage]

theorem positions_eq_empty_of_findIdx? {l : List α} (h : l.findIdx? p = none) : positions p l = ∅ := by
  rw [List.findIdx?_eq_none_iff] at h
  ext i
  refine ⟨?_, fun hNone => hNone.elim⟩
  rintro ⟨a, ha, hp⟩
  rw [h a (List.mem_of_getElem? ha)] at hp
  cases hp

theorem isLeast_of_findIdx? {l : List α} {i : Nat} (h : l.findIdx? p = some i) :
    IsLeast (positions p l) i := by
  obtain ⟨hi, hp, hBefore⟩ := List.findIdx?_eq_some_iff_getElem.mp h
  refine ⟨⟨l[i], List.getElem?_eq_getElem hi, hp⟩, ?_⟩
  rintro j ⟨a, ha, hpj⟩
  obtain ⟨hj, rfl⟩ := List.getElem?_eq_some_iff.mp ha
  exact Nat.not_lt.mp fun hLess => hBefore j hLess hpj

end Positions

/-- The offsets of a slice that no write falls on. -/
def bareOffsets (tiles : List TileDraft) (size : Nat) : Set Nat :=
  {o | o < size ∧ ∀ w : Write, ¬ w.Lands tiles o}

namespace Assembly

variable {dtype : DType} {tiles : List TileDraft} {size : Nat}

theorem checkCoverage_of_marks {c : Canvas dtype} {marks : Array UInt8} (h : c.marks = some marks) :
    (positions (· == 0) marks.toList = ∅ ∧ checkCoverage c = .ok ()) ∨
    ∃ first, IsLeast (positions (· == 0) marks.toList) first ∧
      checkCoverage c = .error (.uncovered (positions (· == 0) marks.toList).ncard first marks.size) := by
  rw [← length_filter_eq_ncard]
  cases hFirst : marks.toList.findIdx? (· == 0) with
  | none =>
    refine .inl ⟨positions_eq_empty_of_findIdx? hFirst, ?_⟩
    simp only [checkCoverage, h, Canvas.uncovered, hFirst]
  | some first =>
    refine .inr ⟨first, isLeast_of_findIdx? hFirst, ?_⟩
    simp only [checkCoverage, h, Canvas.uncovered, hFirst]

theorem exists_marks_copyTiles (dtype : DType) (tiles : List TileDraft) (size : Nat) :
    ∃ marks, ((Canvas.blank dtype size true).copyTiles tiles).marks = some marks ∧ marks.size = size ∧
      positions (· == 0) marks.toList = bareOffsets tiles size := by
  have hSize := Canvas.markCount?_copyTiles tiles (Canvas.blank dtype size true)
  cases hMarks : ((Canvas.blank dtype size true).copyTiles tiles).marks with
  | none =>
    rw [Canvas.markCount?, hMarks] at hSize
    cases hSize
  | some marks =>
    have hLength : marks.size = size := by
      rw [Canvas.markCount?, hMarks] at hSize
      simpa [Canvas.markCount?, Canvas.blank] using hSize
    refine ⟨marks, rfl, hLength, ?_⟩
    have hMark (o : Nat) : ((Canvas.blank dtype size true).copyTiles tiles).mark? o = marks[o]? := by
      rw [Canvas.mark?, hMarks, Option.bind_some]
    have hBlank {o : Nat} (ho : o < size) : (Canvas.blank dtype size true).mark? o = some 0 :=
      Array.getElem?_replicate.trans (if_pos ho)
    ext o
    constructor
    · rintro ⟨m, hm, hUnmarked⟩
      rw [Array.getElem?_toList] at hm
      obtain ⟨ho, -⟩ := Array.getElem?_eq_some_iff.mp hm
      rw [hLength] at ho
      refine ⟨ho, fun w hLands => ?_⟩
      rw [← hMark, Canvas.mark?_copyTiles_of_lands (hBlank ho) hLands] at hm
      obtain rfl := Option.some.inj hm
      cases hUnmarked
    · rintro ⟨ho, hNone⟩
      refine ⟨0, ?_, rfl⟩
      rw [Array.getElem?_toList, ← hMark, Canvas.mark?_copyTiles_of_not_lands hNone, hBlank ho]

variable {rows cols : Json.Value} {extent : Extent} {plans : List Plan}

theorem assemble_of_plans_unmarked (hCount : ∀ t ∈ tiles, t.Countable)
    (hExtent : Extent.ofDimensions rows cols = .ok extent)
    (hPlans : planAll tiles (Number.ofNat extent.size) = .ok plans) :
    assemble tiles rows cols ⟨dtype, false⟩ = .ok (sliceOf extent ⟨dtype, false⟩ plans) := by
  have hMarks : (scatter extent ⟨dtype, false⟩ plans).marks = none := by
    have hNone := Canvas.markCount?_copyTiles tiles (Canvas.blank dtype extent.size false)
    rw [← @scatter_eq_copyTiles tiles ⟨dtype, false⟩ extent plans hPlans hCount] at hNone
    exact Option.map_eq_none_iff.mp hNone
  rw [assemble_of_plans hExtent hPlans, checkCoverage, hMarks]
  rfl

theorem sliceOf_marked (hCount : ∀ t ∈ tiles, t.Countable)
    (hPlans : planAll tiles (Number.ofNat extent.size) = .ok plans) :
    sliceOf extent ⟨dtype, true⟩ plans = sliceOf extent ⟨dtype, false⟩ plans := by
  have hBuffer : (scatter extent ⟨dtype, true⟩ plans).buffer =
      (scatter extent ⟨dtype, false⟩ plans).buffer := by
    rw [scatter_eq_copyTiles hPlans hCount, scatter_eq_copyTiles hPlans hCount]
    exact Canvas.buffer_copyTiles tiles rfl
  simp only [sliceOf, hBuffer]

theorem assemble_of_plans_marked (hCount : ∀ t ∈ tiles, t.Countable)
    (hExtent : Extent.ofDimensions rows cols = .ok extent)
    (hPlans : planAll tiles (Number.ofNat extent.size) = .ok plans) :
    (bareOffsets tiles extent.size = ∅ ∧
      assemble tiles rows cols ⟨dtype, true⟩ = .ok (sliceOf extent ⟨dtype, true⟩ plans)) ∨
    ∃ first, IsLeast (bareOffsets tiles extent.size) first ∧ assemble tiles rows cols ⟨dtype, true⟩ =
      .error (.uncovered (bareOffsets tiles extent.size).ncard first extent.size) := by
  obtain ⟨marks, hMarks, hSize, hBare⟩ := exists_marks_copyTiles dtype tiles extent.size
  have hScatter := @scatter_eq_copyTiles tiles ⟨dtype, true⟩ extent plans hPlans hCount
  have hCoverage := checkCoverage_of_marks (hScatter ▸ hMarks)
  rw [hBare, hSize] at hCoverage
  rw [assemble_of_plans hExtent hPlans]
  rcases hCoverage with ⟨hEmpty, hOk⟩ | ⟨first, hLeast, hError⟩
  · exact .inl ⟨hEmpty, by rw [hOk]; rfl⟩
  · exact .inr ⟨first, hLeast, by rw [hError]; rfl⟩

/-- Where no offset stays bare, it makes no difference whether coverage is asked for. -/
theorem assemble_of_plans_covered {options : Options} (hCount : ∀ t ∈ tiles, t.Countable)
    (hExtent : Extent.ofDimensions rows cols = .ok extent)
    (hPlans : planAll tiles (Number.ofNat extent.size) = .ok plans)
    (hCovered : bareOffsets tiles extent.size = ∅) :
    assemble tiles rows cols options = .ok (sliceOf extent options plans) := by
  obtain ⟨dtype, requireCoverage⟩ := options
  cases requireCoverage with
  | false => exact assemble_of_plans_unmarked hCount hExtent hPlans
  | true =>
    rcases assemble_of_plans_marked hCount hExtent hPlans with ⟨-, hOk⟩ | ⟨first, hLeast, -⟩
    · exact hOk
    · exact absurd hLeast.1 (hCovered ▸ Set.notMem_empty first)

end Assembly

/-- With coverage asked for, the outcome is the same unless offsets stay bare; then these are
counted, and the first of them is named. -/
theorem assemble_requireCoverage (tiles : List TileDraft) (rows cols : Json.Value) (dtype : DType)
    (hCount : ∀ t ∈ tiles, t.Countable) :
    (∀ e, assemble tiles rows cols ⟨dtype, false⟩ = .error e →
      assemble tiles rows cols ⟨dtype, true⟩ = .error e) ∧
    ∀ slice, assemble tiles rows cols ⟨dtype, false⟩ = .ok slice →
      (bareOffsets tiles (slice.rows * slice.cols) = ∅ →
        assemble tiles rows cols ⟨dtype, true⟩ = .ok slice) ∧
      ((bareOffsets tiles (slice.rows * slice.cols)).Nonempty →
        ∃ first, IsLeast (bareOffsets tiles (slice.rows * slice.cols)) first ∧
          assemble tiles rows cols ⟨dtype, true⟩ = .error (.uncovered
            (bareOffsets tiles (slice.rows * slice.cols)).ncard first (slice.rows * slice.cols))) := by
  constructor
  · intro e h
    cases hExtent : Extent.ofDimensions rows cols with
    | error e' =>
      rw [Assembly.assemble_of_extent_error hExtent] at h ⊢
      exact h
    | ok extent =>
      cases hPlans : Assembly.planAll tiles (Number.ofNat extent.size) with
      | error e' =>
        rw [Assembly.assemble_of_plan_error hExtent hPlans] at h ⊢
        exact h
      | ok plans =>
        rw [Assembly.assemble_of_plans_unmarked hCount hExtent hPlans] at h
        cases h
  · intro slice h
    obtain ⟨extent, plans, hExtent, hPlans, -, rfl⟩ := Assembly.assemble_eq_ok h
    obtain ⟨marks, hMarks, hSize, hBare⟩ := Assembly.exists_marks_copyTiles dtype tiles extent.size
    have hScatter := @Assembly.scatter_eq_copyTiles tiles ⟨dtype, true⟩ extent plans hPlans hCount
    have hCoverage := Assembly.checkCoverage_of_marks (hScatter ▸ hMarks)
    rw [hBare, hSize] at hCoverage
    rw [Assembly.assemble_of_plans hExtent hPlans, Assembly.sliceOf_marked hCount hPlans]
    rcases hCoverage with ⟨hEmpty, hOk⟩ | ⟨first, hLeast, hError⟩
    · rw [hOk]
      exact ⟨fun _ => rfl, fun hSome => absurd hEmpty hSome.ne_empty⟩
    · rw [hError]
      exact ⟨fun hEmpty => absurd hEmpty (Set.nonempty_of_mem hLeast.1).ne_empty, fun _ => ⟨first, hLeast, rfl⟩⟩

theorem assemble_requireCoverage_overlapping : ∃ slice first, (∀ t ∈ overlappingTiles, t.Countable) ∧
    assembleOverlapping false = .ok slice ∧
    IsLeast (bareOffsets overlappingTiles (slice.rows * slice.cols)) first ∧
    assembleOverlapping true = .error (.uncovered
      (bareOffsets overlappingTiles (slice.rows * slice.cols)).ncard first (slice.rows * slice.cols)) := by
  obtain ⟨slice, hAssemble⟩ := exists_assembleOverlapping
  obtain ⟨-, hOutcome⟩ := assemble_requireCoverage overlappingTiles (.number (Number.ofNat 2))
    (.number (Number.ofNat 3)) .single countable_overlappingTiles
  obtain ⟨hCovered, hBare⟩ := hOutcome slice hAssemble
  have hFails : (assembleOverlapping true).toBool = false := by decide +kernel
  have hSome : (bareOffsets overlappingTiles (slice.rows * slice.cols)).Nonempty := by
    refine Set.nonempty_iff_ne_empty.mpr fun hEmpty => ?_
    have hOk : assembleOverlapping true = .ok slice := hCovered hEmpty
    rw [hOk] at hFails
    cases hFails
  obtain ⟨first, hLeast, hError⟩ := hBare hSome
  exact ⟨slice, first, countable_overlappingTiles, hAssemble, hLeast, hError⟩

end CubeSlice
