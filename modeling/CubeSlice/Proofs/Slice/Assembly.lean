import CubeSlice.Proofs.Slice.Writes

/-!
# What is assembled

Tiles that are assembled at all give the slice that they describe in exact integers: each element is
what the last write to its offset brings, and zero where nothing is written.
-/

namespace CubeSlice

namespace Extent

theorem ofDimensions_eq_ok_iff {rows cols : Json.Value} {e : Extent} : ofDimensions rows cols = .ok e ↔
    ∃ x y, rows = .number x ∧ cols = .number y ∧ x.index? = some e.rows ∧ y.index? = some e.cols := by
  constructor
  · intro h
    unfold ofDimensions at h
    split at h
    · rename_i x y
      split at h
      · rename_i hDimensions
        split at h
        · obtain ⟨m, hRows, -⟩ := Number.isDimension_iff.mp hDimensions.1
          obtain ⟨n, hCols, -⟩ := Number.isDimension_iff.mp hDimensions.2
          cases h
          refine ⟨x, y, rfl, rfl, ?_, ?_⟩
          · exact hRows.trans (congrArg some (Number.toNat_of_index? hRows).symm)
          · exact hCols.trans (congrArg some (Number.toNat_of_index? hCols).symm)
        · cases h
      · cases h
    · cases h
  · rintro ⟨x, y, rfl, rfl, hRows, hCols⟩
    have hSafe := e.size_safe
    have hX : x.isDimension = true := Number.isDimension_iff.mpr
      ⟨e.rows, hRows, e.rows_pos, e.rows_le_maxSafe⟩
    have hY : y.isDimension = true := Number.isDimension_iff.mpr
      ⟨e.cols, hCols, e.cols_pos, e.cols_le_maxSafe⟩
    have hProduct : (x * y).isSafeInteger = true :=
      (Number.isSafeInteger_iff_of_keeps (Number.keeps_mul hRows hCols)).mpr hSafe
    simp only [ofDimensions, dif_pos (And.intro hX hY), dif_pos hProduct,
      Number.toNat_of_index? hRows, Number.toNat_of_index? hCols]

theorem ofDimensions_ofNat (e : Extent) :
    ofDimensions (.number (Number.ofNat e.rows)) (.number (Number.ofNat e.cols)) = .ok e :=
  ofDimensions_eq_ok_iff.mpr ⟨_, _, rfl, rfl, Number.index?_ofNat (Number.le_exactLimit e.rows_le_maxSafe),
    Number.index?_ofNat (Number.le_exactLimit e.cols_le_maxSafe)⟩

theorem shape_eq {rows cols : Json.Value} {e : Extent} {x y : Number} (h : ofDimensions rows cols = .ok e)
    (hRows : rows = .number x) (hCols : cols = .number y) : e.shape = [x, y] := by
  obtain ⟨x', y', hRows', hCols', hX, hY⟩ := ofDimensions_eq_ok_iff.mp h
  obtain rfl := Json.Value.number.inj (hRows.symm.trans hRows')
  obtain rfl := Json.Value.number.inj (hCols.symm.trans hCols')
  rw [shape, ← Number.eq_ofNat_of_index? hX e.rows_pos (Number.le_exactLimit e.rows_le_maxSafe),
    ← Number.eq_ofNat_of_index? hY e.cols_pos (Number.le_exactLimit e.cols_le_maxSafe)]

end Extent

def TileDraft.leaves? (dtype : DType) (o : Nat) (t : TileDraft) : Option Number :=
  (t.lastWrite? o).map (Canvas.stored dtype t)

namespace Assembly

variable {tiles : List TileDraft} {rows cols : Json.Value} {options : Options} {extent : Extent}

def sliceOf (extent : Extent) (options : Options) (plans : List Plan) : Slice :=
  ⟨extent, options.dtype, (scatter extent options plans).buffer, by simp [scatter]⟩

theorem assemble_of_extent_error {e : Extent.Error} (h : Extent.ofDimensions rows cols = .error e) :
    assemble tiles rows cols options = .error (.extent e) := by
  rw [assemble, run, h]
  rfl

theorem assemble_of_plan_error {e : Plan.Error} (hExtent : Extent.ofDimensions rows cols = .ok extent)
    (h : planAll tiles (Number.ofNat extent.size) = .error e) :
    assemble tiles rows cols options = .error (.tile e) := by
  rw [assemble, run, hExtent]
  simp only [Except.mapError, Traversal.ok_bind, h]
  rfl

theorem assemble_of_plans {plans : List Plan} (hExtent : Extent.ofDimensions rows cols = .ok extent)
    (h : planAll tiles (Number.ofNat extent.size) = .ok plans) :
    assemble tiles rows cols options =
      (checkCoverage (scatter extent options plans)).map fun _ => sliceOf extent options plans := by
  rw [assemble, run, hExtent]
  simp only [Except.mapError, Traversal.ok_bind, h]
  cases checkCoverage (scatter extent options plans) <;> rfl

theorem assemble_eq_ok {slice : Slice} (h : assemble tiles rows cols options = .ok slice) :
    ∃ extent plans, Extent.ofDimensions rows cols = .ok extent ∧
      planAll tiles (Number.ofNat extent.size) = .ok plans ∧
      checkCoverage (scatter extent options plans) = .ok () ∧ slice = sliceOf extent options plans := by
  cases hExtent : Extent.ofDimensions rows cols with
  | error e =>
    rw [assemble_of_extent_error hExtent] at h
    cases h
  | ok extent =>
    cases hPlans : planAll tiles (Number.ofNat extent.size) with
    | error e =>
      rw [assemble_of_plan_error hExtent hPlans] at h
      cases h
    | ok plans =>
      rw [assemble_of_plans hExtent hPlans] at h
      refine ⟨extent, plans, rfl, hPlans, ?_⟩
      cases hCoverage : checkCoverage (scatter extent options plans) with
      | error e =>
        rw [hCoverage] at h
        cases h
      | ok u =>
        rw [hCoverage] at h
        cases h
        exact ⟨rfl, rfl⟩

theorem scatter_eq_copyTiles {plans : List Plan}
    (h : planAll tiles (Number.ofNat extent.size) = .ok plans) (hCount : ∀ t ∈ tiles, t.Countable) :
    scatter extent options plans =
      (Canvas.blank options.dtype extent.size options.requireCoverage).copyTiles tiles :=
  applyAll_eq_copyTiles (planAll_forall₂ h extent.size_safe hCount) extent.size_safe
    (fun t hMem => (hCount t hMem).row_count_le) _

theorem get?_sliceOf {plans : List Plan} (h : planAll tiles (Number.ofNat extent.size) = .ok plans)
    (hCount : ∀ t ∈ tiles, t.Countable) {o : Nat} (ho : o < extent.size) :
    (sliceOf extent options plans).data.get? o =
      some ((tiles.filterMap (·.leaves? options.dtype o)).getLast?.getD Number.zero) := by
  have hBlank : (Canvas.blank options.dtype extent.size options.requireCoverage).buffer.get? o =
      some Number.zero := Array.getElem?_replicate.trans (if_pos ho)
  calc
    (sliceOf extent options plans).data.get? o = (scatter extent options plans).buffer.get? o := rfl
    _ = ((Canvas.blank options.dtype extent.size options.requireCoverage).buffer.get? o).map
        (tiles.filterMap (·.leaves? options.dtype o)).getLast?.getD := by
      rw [scatter_eq_copyTiles h hCount]
      exact Canvas.settles_copyTiles tiles o _
    _ = some _ := by rw [hBlank, Option.map_some]

end Assembly

/-- The value that a write brings to its offset. -/
def Write.Brings (tiles : List TileDraft) (w : Write) (x : Number) : Prop :=
  ∃ t s v, tiles[w.tile]? = some t ∧ Layout.Holds t.layout s ∧ t.values = some v ∧
    w.run * s.substride + w.place < v.count ∧ x = v.value (w.run * s.substride + w.place)

theorem Write.Lands.exists_value {tiles : List TileDraft} {plans : List Plan} {size o : Nat} {w : Write}
    (h : w.Lands tiles o) (hPlans : List.Forall₂ (Assembly.PlannedAs size) tiles plans) :
    ∃ t s v, tiles[w.tile]? = some t ∧ Layout.Holds t.layout s ∧ t.values = some v ∧
      w.run * s.substride + w.place < v.count := by
  obtain ⟨t, s, hTile, hHolds, hRun, hPlace, -⟩ := h
  obtain ⟨hIn, hGet⟩ := List.getElem?_eq_some_iff.mp hTile
  obtain ⟨hLength, hPlanned⟩ := List.forall₂_iff_get.mp hPlans
  obtain ⟨s', hHolds', -, hFits⟩ := hPlanned w.tile hIn (hLength ▸ hIn)
  rw [List.get_eq_getElem, hGet] at hHolds' hFits
  obtain rfl := hHolds.unique hHolds'
  obtain ⟨-, hSource⟩ := hFits (Nat.zero_lt_of_lt hRun) (Nat.zero_lt_of_lt hPlace) w.run hRun
  cases hValues : t.values with
  | some v =>
    rw [TileDraft.row_eq hValues] at hSource
    exact ⟨t, s, v, hTile, hHolds, hValues, by omega⟩
  | none =>
    have hRow : t.row.count = 0 := by rw [TileDraft.row, hValues]; rfl
    omega

/-- A slice of the element type and the shape that were asked for, each element of which is the value
of the last write to its offset, rounded to the type, or zero where nothing is written. -/
structure Slice.Scattered (slice : Slice) (tiles : List TileDraft) (rows cols : Json.Value)
    (dtype : DType) : Prop where
  type : slice.dtype = dtype
  shape : ∃ x y, rows = .number x ∧ cols = .number y ∧ slice.shape = [x, y] ∧
    x.index? = some slice.rows ∧ y.index? = some slice.cols
  element : ∀ o < slice.rows * slice.cols,
    (∃ (w : Write) (x : Number), w.IsLast tiles o ∧ w.Brings tiles x ∧
      slice.data.get? o = some (dtype.round x)) ∨
    ((∀ w : Write, ¬ w.Lands tiles o) ∧ slice.data.get? o = some Number.zero)

/-- Whatever is assembled is what the tiles describe in exact integers. -/
theorem assemble_scattered (tiles : List TileDraft) (rows cols : Json.Value) (options : Assembly.Options)
    (slice : Slice) (hCount : ∀ t ∈ tiles, t.Countable)
    (h : assemble tiles rows cols options = .ok slice) :
    slice.Scattered tiles rows cols options.dtype := by
  obtain ⟨extent, plans, hExtent, hPlans, -, rfl⟩ := Assembly.assemble_eq_ok h
  obtain ⟨x, y, hRows, hCols, hX, hY⟩ := Extent.ofDimensions_eq_ok_iff.mp hExtent
  refine ⟨rfl, ⟨x, y, hRows, hCols, Extent.shape_eq hExtent hRows hCols, hX, hY⟩, fun o ho => ?_⟩
  have hData : (Assembly.sliceOf extent options plans).data.get? o =
      ((Canvas.blank options.dtype extent.size options.requireCoverage).copyTiles tiles).buffer.get? o := by
    rw [← Assembly.scatter_eq_copyTiles hPlans hCount]
    rfl
  have hBlank : (Canvas.blank options.dtype extent.size options.requireCoverage).buffer.get? o =
      some Number.zero := Array.getElem?_replicate.trans (if_pos ho)
  by_cases hLands : ∃ w : Write, w.Lands tiles o
  · obtain ⟨w', hLands⟩ := hLands
    obtain ⟨w, hLast⟩ := Write.exists_isLast hLands
    obtain ⟨t, s, v, hTile, hHolds, hValues, hBelow⟩ :=
      hLast.1.exists_value (Assembly.planAll_forall₂ hPlans extent.size_safe hCount)
    refine .inl ⟨w, _, hLast, ⟨t, s, v, hTile, hHolds, hValues, hBelow, rfl⟩, hData.trans ?_⟩
    rw [Canvas.get?_copyTiles_of_isLast hBlank hLast hTile hHolds, Canvas.stored, TileDraft.row_eq hValues]
  · have hNone : ∀ w : Write, ¬ w.Lands tiles o := fun w hw => hLands ⟨w, hw⟩
    exact .inr ⟨hNone, hData.trans ((Canvas.get?_copyTiles_of_not_lands hNone).trans hBlank)⟩

def TileDraft.ofValues (s : Strided Nat) (values : List Number) : TileDraft where
  layout := .object (Layout.Field.all.map fun f => (f.name, .number (Number.ofNat (s.get f))))
  values := some (.ofArray values.toArray)

theorem TileDraft.holds_ofValues {s : Strided Nat} (values : List Number) (h : ∀ f, s.get f ≤ maxSafe) :
    Layout.Holds (ofValues s values).layout s := by
  intro f
  have hField : (ofValues s values).layout.field f.name = .number (Number.ofNat (s.get f)) := by
    cases f <;> rfl
  exact ⟨_, hField, Number.index?_ofNat (Number.le_exactLimit (h f)), h f⟩

def TileDraft.ofNaturals (s : Strided Nat) (values : List Nat) : TileDraft where
  layout := .object (Layout.Field.all.map fun f => (f.name, .number (Number.ofNat (s.get f))))
  values := some (.ofArray (values.map Number.ofNat).toArray)

theorem TileDraft.countable_ofNaturals {s : Strided Nat} {values : List Nat} (h : values.length ≤ maxSafe) :
    (ofNaturals s values).Countable := by
  intro v hValues
  cases hValues
  simpa [TileValues.ofArray] using h

/-- Runs that overlap each other, and over them more runs than anybody could walk. -/
def overlappingTiles : List TileDraft :=
  [.ofNaturals ⟨1, 2, 3, 2, 1⟩ [1, 2, 3, 4, 5, 6], .ofNaturals ⟨2, 1, maxSafe, 0, 0⟩ [7]]

theorem countable_overlappingTiles : ∀ t ∈ overlappingTiles, t.Countable := by
  rintro t (_ | ⟨_, _ | ⟨_, ⟨⟩⟩⟩)
  · exact TileDraft.countable_ofNaturals (by decide)
  · exact TileDraft.countable_ofNaturals (by decide)

def assembleOverlapping (requireCoverage : Bool) : Except Assembly.Error Slice :=
  assemble overlappingTiles (.number (Number.ofNat 2)) (.number (Number.ofNat 3)) ⟨.single, requireCoverage⟩

theorem exists_assembleOverlapping : ∃ slice, assembleOverlapping false = .ok slice := by
  have hOk : (assembleOverlapping false).toBool = true := by decide +kernel
  cases hAssemble : assembleOverlapping false with
  | error e =>
    rw [hAssemble] at hOk
    cases hOk
  | ok slice => exact ⟨slice, rfl⟩

theorem assemble_scattered_overlapping : ∃ slice, (∀ t ∈ overlappingTiles, t.Countable) ∧
    assembleOverlapping false = .ok slice ∧
    slice.Scattered overlappingTiles (.number (Number.ofNat 2)) (.number (Number.ofNat 3)) .single := by
  obtain ⟨slice, hAssemble⟩ := exists_assembleOverlapping
  exact ⟨slice, countable_overlappingTiles, hAssemble,
    assemble_scattered _ _ _ _ slice countable_overlappingTiles hAssemble⟩

end CubeSlice
