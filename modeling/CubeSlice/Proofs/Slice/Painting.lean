import CubeSlice.Proofs.Slice.Acceptance
import CubeSlice.Proofs.Slice.Elements

/-!
# Painting rectangles

A rectangle of a slice is one tile: a run for each of its rows, the runs a whole row of the slice apart.
Rectangles that lie inside are assembled, those that touch the last row or column included, and the
slice shows the picture of rectangles painted in order: at each row and column what the last rectangle
there has for it, and zero outside of all of them.
-/

namespace CubeSlice

/-- A rectangle inside a slice of the given extent, with its values row by row. -/
structure Rectangle (extent : Extent) where
  top : Nat
  left : Nat
  height : Nat
  width : Nat
  values : List Number
  height_pos : 0 < height
  width_pos : 0 < width
  bottom_le : top + height ≤ extent.rows
  right_le : left + width ≤ extent.cols
  length_eq : values.length = height * width

namespace Rectangle

variable {extent : Extent} (r : Rectangle extent) {i j n k : Nat}

def layout : Strided Nat where
  initialSkip := r.top * extent.cols + r.left
  chunkSize := r.width
  iterations := r.height
  substride := r.width
  superstride := extent.cols

def tile : TileDraft := .ofValues r.layout r.values

def Contains (i j : Nat) : Prop :=
  (r.top ≤ i ∧ i < r.top + r.height) ∧ r.left ≤ j ∧ j < r.left + r.width

def value? (i j : Nat) : Option Number := r.values[(i - r.top) * r.width + (j - r.left)]?

theorem layout_get_le (f : Layout.Field) : r.layout.get f ≤ maxSafe := by
  have hHeight := r.height_pos
  have hWidth := r.width_pos
  have hBottom := r.bottom_le
  have hRight := r.right_le
  have hOffset : r.top * extent.cols + r.left < extent.size := extent.offset_lt (by omega) (by omega)
  have hSafe : extent.size ≤ maxSafe := extent.size_safe
  have hRows := extent.rows_le_maxSafe
  have hCols := extent.cols_le_maxSafe
  cases f <;> simp only [Strided.get, layout] <;> omega

theorem holds_layout : Layout.Holds r.tile.layout r.layout :=
  TileDraft.holds_ofValues r.values r.layout_get_le

theorem length_values_le : r.values.length ≤ extent.size := by
  have hBottom := r.bottom_le
  have hRight := r.right_le
  rw [r.length_eq, Extent.size]
  exact Nat.mul_le_mul (by omega) (by omega)

theorem valued : r.tile.Valued :=
  ⟨_, rfl, by simpa [TileValues.ofArray] using Nat.le_trans r.length_values_le extent.size_safe⟩

theorem fits : r.layout.Fits extent.size r.values.length := by
  intro _ _ n hn
  have hRow : r.top + n < extent.rows := Nat.lt_of_lt_of_le (Nat.add_lt_add_left hn _) r.bottom_le
  constructor
  · calc
      r.top * extent.cols + r.left + n * extent.cols + r.width
          = (r.top + n) * extent.cols + (r.left + r.width) := by
        rw [Nat.add_mul]
        omega
      _ ≤ (r.top + n) * extent.cols + extent.cols := Nat.add_le_add_left r.right_le _
      _ = (r.top + n + 1) * extent.cols := (Nat.succ_mul _ _).symm
      _ ≤ extent.rows * extent.cols := Nat.mul_le_mul_right _ hRow
  · calc
      n * r.width + r.width = (n + 1) * r.width := (Nat.succ_mul _ _).symm
      _ ≤ r.height * r.width := Nat.mul_le_mul_right _ hn
      _ = r.values.length := r.length_eq.symm

theorem sound : r.tile.Sound extent.size :=
  ⟨r.layout, _, r.holds_layout, rfl, by simpa [TileValues.ofArray] using r.fits⟩

/-- A run lands on an offset as the row of the rectangle lies in that row of the slice; no run goes on
into the next row. -/
theorem lands_iff (hj : j < extent.cols) : r.layout.Lands (i * extent.cols + j) n k ↔
    r.Contains i j ∧ n = i - r.top ∧ k = j - r.left := by
  have hRight := r.right_le
  have hSplit : r.top * extent.cols + r.left + n * extent.cols + k =
      (r.top + n) * extent.cols + (r.left + k) := by
    rw [Nat.add_mul]
    omega
  simp only [Strided.Lands, layout, hSplit, Contains]
  constructor
  · rintro ⟨hRun, hPlace, hOffset⟩
    obtain ⟨hRow, hCol⟩ := eq_of_mul_add_eq (by omega) hj hOffset
    omega
  · rintro ⟨⟨hRow, hCol⟩, rfl, rfl⟩
    refine ⟨by omega, by omega, ?_⟩
    rw [Nat.add_sub_cancel' hRow.1, Nat.add_sub_cancel' hCol.1]

theorem leaves?_of_contains (hj : j < extent.cols) (h : r.Contains i j) :
    r.tile.leaves? .double (i * extent.cols + j) = r.value? i j := by
  have hWrite : r.tile.lastWrite? (i * extent.cols + j) = some (r.layout, i - r.top, j - r.left) := by
    refine TileDraft.lastWrite?_eq_some_iff.mpr ⟨r.holds_layout, (r.lands_iff hj).mpr ⟨h, rfl, rfl⟩, ?_⟩
    exact fun n k hLands => ((r.lands_iff hj).mp hLands).2.1.le
  have hPlace : (i - r.top) * r.width + (j - r.left) < r.values.length := by
    obtain ⟨hRow, hCol⟩ := h
    rw [r.length_eq]
    exact mul_add_lt (by omega) (by omega)
  rw [TileDraft.leaves?, hWrite, value?, List.getElem?_eq_getElem hPlace, Option.map_some]
  simp [Canvas.stored, DType.round, layout, tile, TileDraft.row, TileDraft.ofValues, TileValues.ofArray, hPlace]

theorem leaves?_of_not_contains (hj : j < extent.cols) (h : ¬ r.Contains i j) :
    r.tile.leaves? .double (i * extent.cols + j) = none := by
  rw [TileDraft.leaves?, Option.map_eq_none_iff, TileDraft.lastWrite?_eq_none_iff]
  intro s hHolds n k hLands
  obtain rfl := r.holds_layout.unique hHolds
  exact h ((r.lands_iff hj).mp hLands).1

/-- What is seen at row `i` and column `j` of rectangles that are painted in order. -/
inductive Shows (rectangles : List (Rectangle extent)) (i j : Nat) : Number → Prop
  | painted {n : Nat} {r : Rectangle extent} {x : Number} (here : rectangles[n]? = some r)
      (inside : r.Contains i j)
      (last : ∀ m q, n < m → rectangles[m]? = some q → ¬ q.Contains i j)
      (value : r.value? i j = some x) : Shows rectangles i j x
  | bare (outside : ∀ r ∈ rectangles, ¬ r.Contains i j) : Shows rectangles i j Number.zero

theorem shows_getLast? (rectangles : List (Rectangle extent)) (i : Nat) (hj : j < extent.cols) :
    Shows rectangles i j (((rectangles.map tile).filterMap
      (·.leaves? .double (i * extent.cols + j))).getLast?.getD Number.zero) := by
  -- where a rectangle leaves nothing it is not, since it has a value for each of its places
  have hContains {q : Rectangle extent} (hNone : q.tile.leaves? .double (i * extent.cols + j) = none) :
      ¬ q.Contains i j := by
    intro hInside
    rw [q.leaves?_of_contains hj hInside, value?, List.getElem?_eq_none_iff, q.length_eq] at hNone
    obtain ⟨hRow, hCol⟩ := hInside
    exact absurd (mul_add_lt (by omega) (by omega)) (Nat.not_lt.mpr hNone)
  rw [List.filterMap_map, Function.comp_def]
  cases hLast : (rectangles.filterMap fun r => r.tile.leaves? .double (i * extent.cols + j)).getLast? with
  | none =>
    rw [getLast?_filterMap_eq_none_iff] at hLast
    exact .bare fun r hMem => hContains (hLast r hMem)
  | some x =>
    obtain ⟨n, r, hHere, hValue, hAfter⟩ := getLast?_filterMap_eq_some_iff.mp hLast
    have hInside : r.Contains i j := by
      by_contra hOutside
      rw [r.leaves?_of_not_contains hj hOutside] at hValue
      cases hValue
    rw [r.leaves?_of_contains hj hInside] at hValue
    exact .painted hHere hInside (fun m q hm hq => hContains (hAfter m q hm hq)) hValue

end Rectangle

theorem Slice.at?_eq_ok {slice : Slice} {i j : Nat} {x : Number} (hi : i < slice.rows) (hj : j < slice.cols)
    (h : slice.data.get? (i * slice.cols + j) = some x) :
    slice.at? (Number.ofNat i) (Number.ofNat j) = .ok x := by
  obtain ⟨_, rfl⟩ := Array.getElem?_eq_some_iff.mp h
  exact slice.at?_ofNat hi hj

/-- Rectangles inside a slice are always assembled, and give the picture of painting them in order. -/
theorem assemble_rectangles (extent : Extent) (rectangles : List (Rectangle extent)) :
    ∃ slice, assemble (rectangles.map Rectangle.tile) (.number (Number.ofNat extent.rows))
        (.number (Number.ofNat extent.cols)) ⟨.double, false⟩ = .ok slice ∧
      slice.shape = extent.shape ∧
      ∀ i < extent.rows, ∀ j < extent.cols, ∃ x,
        slice.at? (Number.ofNat i) (Number.ofNat j) = .ok x ∧ Rectangle.Shows rectangles i j x := by
  have hTile : ∀ t ∈ rectangles.map Rectangle.tile, t.Sound extent.size ∧ t.Valued := by
    intro t hMem
    obtain ⟨r, -, rfl⟩ := List.mem_map.mp hMem
    exact ⟨r.sound, r.valued⟩
  have hCount : ∀ t ∈ rectangles.map Rectangle.tile, t.Countable := fun t hMem => (hTile t hMem).2.countable
  obtain ⟨plans, hPlans⟩ := Assembly.exists_planAll_of_sound hTile extent.size_safe
  refine ⟨_, Assembly.assemble_of_plans_unmarked hCount extent.ofDimensions_ofNat hPlans, rfl, fun i hi j hj => ?_⟩
  have hSeen : (Assembly.sliceOf extent ⟨.double, false⟩ plans).data.get? (i * extent.cols + j) = _ :=
    Assembly.get?_sliceOf hPlans hCount (extent.offset_lt hi hj)
  exact ⟨_, Slice.at?_eq_ok hi hj hSeen, Rectangle.shows_getLast? rectangles i hj⟩

end CubeSlice
