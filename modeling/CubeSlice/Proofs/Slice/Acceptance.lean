import CubeSlice.Failure
import CubeSlice.Proofs.Slice.Coverage

/-!
# Which tiles are assembled

Two numbers and a list of tiles with values make a slice just when the numbers are the dimensions of
one and every tile is sound, all said in exact integers. Otherwise the dimensions are refused before
any tile is looked at, or else the first tile that is not sound is refused. It is refused for its
layout before its ranges, and for the first field that holds no count; that field is named unless what
it holds cannot be told in a message.
-/

namespace CubeSlice

def AreDimensions (x y : Number) (r c : Nat) : Prop :=
  x.index? = some r ∧ y.index? = some c ∧ 0 < r ∧ 0 < c ∧ r * c ≤ maxSafe

namespace Extent

theorem exists_ofDimensions_of_areDimensions {x y : Number} {r c : Nat} (h : AreDimensions x y r c) :
    ∃ e, ofDimensions (.number x) (.number y) = .ok e ∧ e.rows = r ∧ e.cols = c := by
  obtain ⟨hX, hY, hRows, hCols, hSafe⟩ := h
  exact ⟨⟨r, c, hRows, hCols, hSafe⟩, ofDimensions_eq_ok_iff.mpr ⟨x, y, rfl, rfl, hX, hY⟩, rfl, rfl⟩

theorem areDimensions_of_ofDimensions {x y : Number} {e : Extent}
    (h : ofDimensions (.number x) (.number y) = .ok e) : AreDimensions x y e.rows e.cols := by
  obtain ⟨x', y', hRows, hCols, hX, hY⟩ := ofDimensions_eq_ok_iff.mp h
  obtain rfl := Json.Value.number.inj hRows
  obtain rfl := Json.Value.number.inj hCols
  exact ⟨hX, hY, e.rows_pos, e.cols_pos, e.size_safe⟩

theorem ofDimensions_number_ne_untold (x y : Number) :
    ofDimensions (.number x) (.number y) ≠ .error .untold := by
  intro h
  unfold ofDimensions at h
  dsimp only at h
  split at h
  · split at h <;> cases h
  · cases h

end Extent

namespace TileDraft

variable {t : TileDraft} {i size : Nat}

def Valued (t : TileDraft) : Prop := ∃ v, t.values = some v ∧ v.count ≤ maxSafe

theorem Valued.countable (h : t.Valued) : t.Countable := by
  intro v hValue
  obtain ⟨v', hValue', hCount⟩ := h
  obtain rfl : v = v' := Option.some.inj (hValue.symm.trans hValue')
  exact hCount

/-- All five fields of the layout are counts, and every run stays inside the slice and the values. -/
def Sound (t : TileDraft) (size : Nat) : Prop :=
  ∃ s v, Layout.Holds t.layout s ∧ t.values = some v ∧ s.Fits size v.count

/-- How tile number `i` is refused, and under which name this is reported. -/
inductive Refusal (t : TileDraft) (i size : Nat) : Plan.Error → String → Prop
  | noLayout (bare : ¬ t.layout.IsComposite) :
      Refusal t i size (.layout (Number.ofNat i) .missing) "MalformedLayoutError"
  | badField {f : Layout.Field} {e : Layout.Error} (composite : t.layout.IsComposite)
      (flaw : Layout.FirstFlaw t.layout f) (tellable : (t.layout.field f.name).isTellable = true)
      (named : e.field? = some f) : Refusal t i size (.layout (Number.ofNat i) e) "MalformedLayoutError"
  | untold {f : Layout.Field} (composite : t.layout.IsComposite) (flaw : Layout.FirstFlaw t.layout f)
      (untellable : (t.layout.field f.name).isTellable = false) :
      Refusal t i size (.layout (Number.ofNat i) .untold) "TypeError"
  | leaves {s : Strided Nat} {v : TileValues} {o : Plan.Overflow} {k : Nat}
      (layout : Layout.Holds t.layout s) (values : t.values = some v)
      (reports : o.Reports s (Number.ofNat i) size v.count k) :
      Refusal t i size (.overflow o) "OutOfBoundsError"

theorem Refusal.name_eq {e : Plan.Error} {name : String} (h : t.Refusal i size e name) :
    (Failure.assembly (.tile e)).name = name := by
  cases h with
  | noLayout bare => rfl
  | @badField f e composite flaw tellable named =>
    cases e with
    | missing => cases named
    | untold => cases named
    | notInteger f got => rfl
    | negative f got => rfl
  | untold composite flaw untellable => rfl
  | leaves layout values reports => rfl

theorem exists_refusal_of_layout {e : Layout.Error} (h : Layout.ofValue t.layout = .error e) :
    ∃ name, t.Refusal i size (.layout (Number.ofNat i) e) name := by
  rcases Layout.ofValue_error h with ⟨hBare, rfl⟩ | ⟨hComposite, f, hFlaw, hError⟩
  · exact ⟨_, .noLayout hBare⟩
  · cases hTell : (t.layout.field f.name).isTellable with
    | true =>
      rw [hTell, if_pos rfl] at hError
      exact ⟨_, .badField hComposite hFlaw hTell hError⟩
    | false =>
      rw [hTell, if_neg Bool.false_ne_true] at hError
      obtain rfl := hError
      exact ⟨_, .untold hComposite hFlaw hTell⟩

theorem plan_outcome (t : TileDraft) (i : Nat) (hValued : t.Valued) (hn : size ≤ maxSafe) :
    (t.Sound size ∧ ∃ p, t.plan (Number.ofNat i) (Number.ofNat size) = .ok p) ∨
    (¬ t.Sound size ∧ ∃ e name, t.plan (Number.ofNat i) (Number.ofNat size) = .error e ∧
      t.Refusal i size e name) := by
  obtain ⟨v, hValues, hCount⟩ := hValued
  rcases @plan_spec t (Number.ofNat i) (Number.ofNat size) size v hValues
      (Number.index?_ofNat (Number.le_exactLimit hn)) hn hCount with
    ⟨e, hLayout, hPlan⟩ | ⟨s, hHolds, ⟨p, hPlan, -, hFits⟩ | ⟨o, k, hPlan, hChunk, hReports⟩⟩
  · obtain ⟨name, hRefusal⟩ := @exists_refusal_of_layout t i size e hLayout
    refine .inr ⟨?_, _, name, hPlan, hRefusal⟩
    rintro ⟨s, v, hHolds, -, -⟩
    obtain ⟨l, hOk⟩ := Layout.exists_ofValue_iff.mpr ⟨s, hHolds⟩
    rw [hLayout] at hOk
    cases hOk
  · exact .inl ⟨⟨s, v, hHolds, hValues, hFits⟩, p, hPlan⟩
  · refine .inr ⟨?_, _, _, hPlan, .leaves hHolds hValues hReports⟩
    rintro ⟨s', v', hHolds', hValues', hFits⟩
    obtain rfl := hHolds.unique hHolds'
    obtain rfl : v = v' := Option.some.inj (hValues.symm.trans hValues')
    exact hReports.not_fits hChunk hFits

end TileDraft

namespace Assembly

open Traversal

variable {tiles : List TileDraft} {size : Nat} {e : Plan.Error} {name : String}

/-- The first tile that is not sound, and how it is refused. -/
def FirstRefusal (tiles : List TileDraft) (size : Nat) (e : Plan.Error) (name : String) : Prop :=
  ∃ (i : Nat) (t : TileDraft), tiles[i]? = some t ∧ ¬ t.Sound size ∧
    (∀ j < i, ∀ u : TileDraft, tiles[j]? = some u → u.Sound size) ∧ t.Refusal i size e name

theorem FirstRefusal.not_sound (h : FirstRefusal tiles size e name) : ¬ ∀ t ∈ tiles, t.Sound size := by
  obtain ⟨i, t, hTile, hUnsound, -, -⟩ := h
  exact fun hAll => hUnsound (hAll t (List.mem_of_getElem? hTile))

theorem FirstRefusal.name_eq (h : FirstRefusal tiles size e name) :
    (Failure.assembly (.tile e)).name = name := by
  obtain ⟨i, t, -, -, -, hRefusal⟩ := h
  exact hRefusal.name_eq

theorem planAll_outcome (hValued : ∀ t ∈ tiles, t.Valued) (hn : size ≤ maxSafe) :
    ((∀ t ∈ tiles, t.Sound size) ∧ ∃ plans, planAll tiles (Number.ofNat size) = .ok plans) ∨
    ∃ e name, planAll tiles (Number.ofNat size) = .error e ∧ FirstRefusal tiles size e name := by
  have hSound {i : Nat} {t : TileDraft} (hTile : tiles[i]? = some t)
      (hPlan : ∃ p, t.plan (Number.ofNat i) (Number.ofNat size) = .ok p) : t.Sound size := by
    rcases TileDraft.plan_outcome t i (hValued t (List.mem_of_getElem? hTile)) hn with
      ⟨hSound, -⟩ | ⟨-, e, name, hError, -⟩
    · exact hSound
    · obtain ⟨p, hPlan⟩ := hPlan
      rw [hPlan] at hError
      cases hError
  cases hPlans : planAll tiles (Number.ofNat size) with
  | ok plans =>
    refine .inl ⟨fun t hMem => ?_, plans, rfl⟩
    obtain ⟨i, hTile⟩ := List.mem_iff_getElem?.mp hMem
    obtain ⟨p, -, hPlan⟩ := exists_of_mapM_zipIdx_eq_ok hPlans hTile
    exact hSound hTile ⟨p, hPlan⟩
  | error e =>
    obtain ⟨i, t, hTile, hError, hBefore⟩ := mapM_zipIdx_eq_error_iff.mp hPlans
    refine .inr ⟨e, ?_⟩
    rcases TileDraft.plan_outcome t i (hValued t (List.mem_of_getElem? hTile)) hn with
      ⟨-, p, hPlan⟩ | ⟨hUnsound, e', name, hError', hRefusal⟩
    · cases hPlan.symm.trans hError
    · obtain rfl := Except.error.inj (hError.symm.trans hError')
      exact ⟨name, rfl, i, t, hTile, hUnsound, fun j hj u hu => hSound hu (hBefore j hj u hu), hRefusal⟩

theorem exists_planAll_of_sound (hTiles : ∀ t ∈ tiles, t.Sound size ∧ t.Valued) (hn : size ≤ maxSafe) :
    ∃ plans, planAll tiles (Number.ofNat size) = .ok plans := by
  rcases planAll_outcome (fun t hMem => (hTiles t hMem).2) hn with ⟨-, hPlans⟩ | ⟨e, name, -, hRefusal⟩
  · exact hPlans
  · exact absurd (fun t hMem => (hTiles t hMem).1) hRefusal.not_sound

end Assembly

/-- Without a call for coverage, two numbers and tiles with values are assembled just when the numbers
are dimensions and all tiles are sound. Else the dimensions are refused, whatever the tiles are, or
the first tile is that is not sound. -/
theorem assemble_outcome (tiles : List TileDraft) (x y : Number) (dtype : DType)
    (hValued : ∀ t ∈ tiles, t.Valued) :
    ((∃ slice, assemble tiles (.number x) (.number y) ⟨dtype, false⟩ = .ok slice) ↔
      ∃ r c, AreDimensions x y r c ∧ ∀ t ∈ tiles, t.Sound (r * c)) ∧
    ((¬ ∃ r c, AreDimensions x y r c) →
      ∃ e, assemble tiles (.number x) (.number y) ⟨dtype, false⟩ = .error (.extent e) ∧
        (Failure.assembly (.extent e)).name = "InvalidShapeError") ∧
    ∀ r c, AreDimensions x y r c → (¬ ∀ t ∈ tiles, t.Sound (r * c)) →
      ∃ e name, assemble tiles (.number x) (.number y) ⟨dtype, false⟩ = .error (.tile e) ∧
        Assembly.FirstRefusal tiles (r * c) e name ∧ (Failure.assembly (.tile e)).name = name := by
  have hCount : ∀ t ∈ tiles, t.Countable := fun t hMem => (hValued t hMem).countable
  -- what happens to the tiles once the dimensions are accepted
  have hTiles {r c : Nat} (h : AreDimensions x y r c) :
      ((∀ t ∈ tiles, t.Sound (r * c)) ∧
        ∃ slice, assemble tiles (.number x) (.number y) ⟨dtype, false⟩ = .ok slice) ∨
      ∃ e name, assemble tiles (.number x) (.number y) ⟨dtype, false⟩ = .error (.tile e) ∧
        Assembly.FirstRefusal tiles (r * c) e name := by
    obtain ⟨extent, hExtent, rfl, rfl⟩ := Extent.exists_ofDimensions_of_areDimensions h
    rcases @Assembly.planAll_outcome tiles extent.size hValued extent.size_safe with
      ⟨hSound, plans, hPlans⟩ | ⟨e, name, hPlans, hRefusal⟩
    · exact .inl ⟨hSound, _, Assembly.assemble_of_plans_unmarked hCount hExtent hPlans⟩
    · exact .inr ⟨e, name, Assembly.assemble_of_plan_error hExtent hPlans, hRefusal⟩
  refine ⟨⟨?_, ?_⟩, ?_, ?_⟩
  · rintro ⟨slice, hSlice⟩
    obtain ⟨extent, plans, hExtent, -⟩ := Assembly.assemble_eq_ok hSlice
    have hDimensions := Extent.areDimensions_of_ofDimensions hExtent
    rcases hTiles hDimensions with ⟨hSound, -⟩ | ⟨e, name, hError, -⟩
    · exact ⟨_, _, hDimensions, hSound⟩
    · rw [hSlice] at hError
      cases hError
  · rintro ⟨r, c, hDimensions, hSound⟩
    rcases hTiles hDimensions with ⟨-, hSlice⟩ | ⟨e, name, -, hRefusal⟩
    · exact hSlice
    · exact absurd hSound hRefusal.not_sound
  · intro hNone
    cases hExtent : Extent.ofDimensions (.number x) (.number y) with
    | ok extent => exact absurd ⟨_, _, Extent.areDimensions_of_ofDimensions hExtent⟩ hNone
    | error e =>
      refine ⟨e, Assembly.assemble_of_extent_error hExtent, ?_⟩
      cases e with
      | notDimensions rows cols => rfl
      | tooLarge rows cols => rfl
      | untold => exact absurd hExtent (Extent.ofDimensions_number_ne_untold x y)
  · intro r c hDimensions hUnsound
    rcases hTiles hDimensions with ⟨hSound, -⟩ | ⟨e, name, hError, hRefusal⟩
    · exact absurd hSound hUnsound
    · exact ⟨e, name, hError, hRefusal, hRefusal.name_eq⟩

/-- A tile whose first field is an object that stands in for the way to tell it. -/
def untoldTile : TileDraft where
  layout := .object [(Layout.Field.initialSkip.name, .object [("toString", .null)])]
  values := some .empty

theorem assemble_outcome_untold : (∀ t ∈ [untoldTile], t.Valued) ∧
    AreDimensions (Number.ofNat 1) (Number.ofNat 1) 1 1 ∧ (¬ ∀ t ∈ [untoldTile], t.Sound (1 * 1)) ∧
    ∃ e, assemble [untoldTile] (.number (Number.ofNat 1)) (.number (Number.ofNat 1)) ⟨.double, false⟩ =
        .error (.tile e) ∧
      Assembly.FirstRefusal [untoldTile] (1 * 1) e "TypeError" := by
  have hValued : ∀ t ∈ [untoldTile], t.Valued := by
    intro t hMem
    obtain rfl := List.mem_singleton.mp hMem
    exact ⟨.empty, rfl, Nat.zero_le _⟩
  have hOne : (Number.ofNat 1).index? = some 1 := Number.index?_ofNat (by decide)
  have hDimensions : AreDimensions (Number.ofNat 1) (Number.ofNat 1) 1 1 :=
    ⟨hOne, hOne, Nat.one_pos, Nat.one_pos, by decide⟩
  have hUnsound : ¬ ∀ t ∈ [untoldTile], t.Sound (1 * 1) := by
    intro hSound
    obtain ⟨s, v, hHolds, -⟩ := hSound untoldTile (List.mem_singleton_self _)
    obtain ⟨x, hx, -⟩ := hHolds .initialSkip
    cases hx
  obtain ⟨-, -, hRefused⟩ := assemble_outcome [untoldTile] (Number.ofNat 1) (Number.ofNat 1) .double hValued
  obtain ⟨e, name, hError, hRefusal, hName⟩ := hRefused 1 1 hDimensions hUnsound
  obtain ⟨extent, hExtent, -, -⟩ := Extent.exists_ofDimensions_of_areDimensions hDimensions
  have hPlans : Assembly.planAll [untoldTile] (Number.ofNat extent.size) =
      .error (.layout (Number.ofNat 0) .untold) := rfl
  rw [Assembly.assemble_of_plan_error hExtent hPlans] at hError
  cases hError
  obtain rfl : "TypeError" = name := hName
  exact ⟨hValued, hDimensions, hUnsound, _, Assembly.assemble_of_plan_error hExtent hPlans, hRefusal⟩

end CubeSlice
