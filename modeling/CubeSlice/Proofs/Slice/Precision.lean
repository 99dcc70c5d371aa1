import CubeSlice.Proofs.Number.Nearest
import CubeSlice.Proofs.Slice.Assembly

/-!
# Single and double precision

The element type decides nothing but how elements are rounded. Assembled once for either type, the same
tiles end in the same error, or in two slices of one extent, where each single-precision element is the
nearest to the double-precision element at its offset. Every step of writing keeps the two canvases in
this relation, whatever is written and wherever; transposing both slices keeps it too.
-/

namespace CubeSlice

def Buffer.RoundedFrom (b : Buffer .single) (c : Buffer .double) : Prop :=
  b.cells = c.cells.map Number.toSingle

namespace Buffer.RoundedFrom

variable {b : Buffer .single} {c : Buffer .double}

theorem zeros (size : Nat) : (Buffer.zeros .single size).RoundedFrom (Buffer.zeros .double size) := by
  have hZero : Number.zero.toSingle = Number.zero := DType.round_zero .single
  simp only [RoundedFrom, Buffer.zeros, Array.map_replicate, hZero]

theorem set (h : b.RoundedFrom c) (i : Nat) (x : Number) : (b.set i x).RoundedFrom (c.set i x) := by
  simp only [RoundedFrom, Buffer.set, DType.round, Array.map_setIfInBounds]
  rw [h]

theorem setAt (h : b.RoundedFrom c) (position x : Number) :
    (b.setAt position x).RoundedFrom (c.setAt position x) := by
  unfold Buffer.setAt
  split
  · exact h.set _ x
  · exact h

theorem copyFrom (h : b.RoundedFrom c) (values : TileValues) (source target count : Nat) :
    (b.copyFrom values source target count).RoundedFrom (c.copyFrom values source target count) := by
  induction count generalizing source target b c with
  | zero => exact h
  | succ count ih => exact ih (h.set target (values.value source)) (source + 1) (target + 1)

theorem copyBetween (h : b.RoundedFrom c) (values : TileValues) (source target : Number) (count : Nat) :
    (b.copyBetween values source target count).RoundedFrom (c.copyBetween values source target count) :=
  List.foldl_rel h fun _ _ _ _ h => h.setAt _ _

theorem copyRun (h : b.RoundedFrom c) (values : TileValues) (r : Run) :
    (b.copyRun values r).RoundedFrom (c.copyRun values r) := by
  unfold Buffer.copyRun
  split
  · exact h.copyFrom values _ _ _
  · exact h.copyBetween values _ _ _

theorem get? (h : b.RoundedFrom c) (o : Nat) : b.get? o = (c.get? o).map Number.toSingle := by
  rw [Buffer.get?, h, Array.getElem?_map]
  rfl

end Buffer.RoundedFrom

structure Canvas.RoundedFrom (c : Canvas .single) (d : Canvas .double) : Prop where
  buffer : c.buffer.RoundedFrom d.buffer
  marks : c.marks = d.marks

namespace Canvas.RoundedFrom

variable {c : Canvas .single} {d : Canvas .double}

theorem blank (size : Nat) (marked : Bool) :
    (Canvas.blank .single size marked).RoundedFrom (Canvas.blank .double size marked) :=
  ⟨.zeros size, rfl⟩

theorem copyRun (h : c.RoundedFrom d) (values : TileValues) (r : Run) :
    (c.copyRun values r).RoundedFrom (d.copyRun values r) :=
  ⟨h.buffer.copyRun values r, congrArg (Option.map (markRun r)) h.marks⟩

theorem execute (h : c.RoundedFrom d) (p : Plan) (r : Run) (count : Nat) :
    (c.execute p r count).RoundedFrom (d.execute p r count) := by
  induction count generalizing r c d with
  | zero => exact h
  | succ count ih => exact ih (h.copyRun p.values r) (p.next r)

theorem applyAll (h : c.RoundedFrom d) (plans : List Plan) :
    (c.applyAll plans).RoundedFrom (d.applyAll plans) :=
  List.foldl_rel h fun p _ _ _ h => h.execute p _ _

theorem checkCoverage_eq (h : c.RoundedFrom d) : Assembly.checkCoverage c = Assembly.checkCoverage d := by
  rw [Assembly.checkCoverage, Assembly.checkCoverage, h.marks]

end Canvas.RoundedFrom

/-- Two slices of one extent: each element of the first is the single-precision number nearest to the
element of the second at the same offset. -/
structure Slice.RoundedFrom (single double : Slice) : Prop where
  types : single.dtype = .single ∧ double.dtype = .double
  extent : single.extent = double.extent
  element : ∀ o, Option.Rel Number.RoundsToSingle (double.data.get? o) (single.data.get? o)

namespace Slice.RoundedFrom

variable {single double : Slice}

theorem shape_eq (h : single.RoundedFrom double) : single.shape = double.shape :=
  congrArg Extent.shape h.extent

theorem strides_eq (h : single.RoundedFrom double) : single.strides = double.strides :=
  congrArg Shape.strides h.shape_eq

theorem transpose (h : single.RoundedFrom double) : single.transpose.RoundedFrom double.transpose where
  types := h.types
  extent := congrArg Extent.swap h.extent
  element o := by
    have hRows : single.rows = double.rows := congrArg Extent.rows h.extent
    have hCols : single.cols = double.cols := congrArg Extent.cols h.extent
    by_cases ho : o < single.rows * single.cols
    · rw [get?_transpose single ho, get?_transpose double (by rwa [← hRows, ← hCols]), hRows, hCols]
      exact h.element _
    · have hNone (s : Slice) (hs : ¬ o < s.rows * s.cols) : s.transpose.data.get? o = none := by
        refine Array.getElem?_eq_none (Nat.le_of_not_lt fun hLess => hs ?_)
        exact Nat.lt_of_lt_of_eq hLess (s.transpose.size_eq.trans s.extent.size_swap)
      rw [hNone single ho, hNone double (by rwa [← hRows, ← hCols])]
      exact .none

end Slice.RoundedFrom

namespace Assembly

theorem scatter_roundedFrom (extent : Extent) (requireCoverage : Bool) (plans : List Plan) :
    (scatter extent ⟨.single, requireCoverage⟩ plans).RoundedFrom
      (scatter extent ⟨.double, requireCoverage⟩ plans) :=
  (Canvas.RoundedFrom.blank extent.size requireCoverage).applyAll plans

theorem sliceOf_roundedFrom (extent : Extent) (requireCoverage : Bool) (plans : List Plan) :
    (sliceOf extent ⟨.single, requireCoverage⟩ plans).RoundedFrom
      (sliceOf extent ⟨.double, requireCoverage⟩ plans) where
  types := ⟨rfl, rfl⟩
  extent := rfl
  element o := by
    have hGet := (scatter_roundedFrom extent requireCoverage plans).buffer.get? o
    change Option.Rel _ ((scatter extent ⟨.double, requireCoverage⟩ plans).buffer.get? o)
      ((scatter extent ⟨.single, requireCoverage⟩ plans).buffer.get? o)
    rw [hGet]
    cases (scatter extent ⟨.double, requireCoverage⟩ plans).buffer.get? o with
    | none => exact .none
    | some x => exact .some (Number.roundsToSingle_iff.mpr rfl)

end Assembly

/-- For either element type the same error is raised, or slices are made that differ in rounding only,
as they are and transposed. -/
theorem assemble_single_double (tiles : List TileDraft) (rows cols : Json.Value) (requireCoverage : Bool) :
    (∃ e, assemble tiles rows cols ⟨.single, requireCoverage⟩ = .error e ∧
      assemble tiles rows cols ⟨.double, requireCoverage⟩ = .error e) ∨
    ∃ single double, assemble tiles rows cols ⟨.single, requireCoverage⟩ = .ok single ∧
      assemble tiles rows cols ⟨.double, requireCoverage⟩ = .ok double ∧
      single.shape = double.shape ∧ single.strides = double.strides ∧
      single.RoundedFrom double ∧ single.transpose.RoundedFrom double.transpose := by
  cases hExtent : Extent.ofDimensions rows cols with
  | error e =>
    exact .inl ⟨_, Assembly.assemble_of_extent_error hExtent, Assembly.assemble_of_extent_error hExtent⟩
  | ok extent =>
    cases hPlans : Assembly.planAll tiles (Number.ofNat extent.size) with
    | error e =>
      exact .inl ⟨_, Assembly.assemble_of_plan_error hExtent hPlans,
        Assembly.assemble_of_plan_error hExtent hPlans⟩
    | ok plans =>
      rw [Assembly.assemble_of_plans hExtent hPlans, Assembly.assemble_of_plans hExtent hPlans,
        (Assembly.scatter_roundedFrom extent requireCoverage plans).checkCoverage_eq]
      cases Assembly.checkCoverage (Assembly.scatter extent ⟨.double, requireCoverage⟩ plans) with
      | error e => exact .inl ⟨e, rfl, rfl⟩
      | ok _ =>
        have hRounded := Assembly.sliceOf_roundedFrom extent requireCoverage plans
        exact .inr ⟨_, _, rfl, rfl, hRounded.shape_eq, hRounded.strides_eq, hRounded, hRounded.transpose⟩

end CubeSlice
