import CubeSlice.Proofs.Payload
import CubeSlice.Proofs.Slice.Acceptance

/-!
# Two checks of a layout

A layout is checked when a payload is read and once more when a tile is planned. Both checks refuse the
same values, for the same field and under the same path. They part in one point only: planning has to
tell what the refused field holds, and where that cannot be told it fails under another name. Tiles that
were read from a payload are never refused for their layout again.
-/

namespace CubeSlice

open Json (Value)
open Schema Traversal

def Failure.malformedLayout? : Failure → Option (Number × String × String)
  | .payload (.layout tile field _) => some (tile, field, Payload.layoutPath tile field)
  | .assembly (.tile (.layout _ .untold)) => none
  | .assembly (.tile (.layout tile e)) =>
    let field := Payload.nameOf e.field?
    some (tile, field, Payload.layoutPath tile field)
  | _ => none

/-- The failure is a malformed layout, and it is reported with this tile, field and path. -/
def Failure.ReportsLayout (f : Failure) (tile : Number) (field path : String) : Prop :=
  f.name = "MalformedLayoutError" ∧ f.malformedLayout? = some (tile, field, path)

namespace Layout

/-- What the first flaw of the value is cannot be told. -/
def Untellable (v : Value) : Prop := ∃ f, FirstFlaw v f ∧ (v.field f.name).isTellable = false

theorem Field.position_injective {f g : Field} (h : f.position = g.position) : f = g := by
  have hGet := Field.getElem?_all.mpr h
  rw [Field.getElem?_all.mpr rfl] at hGet
  exact Option.some.inj hGet

theorem FirstFlaw.unique {v : Value} {f g : Field} (hf : FirstFlaw v f) (hg : FirstFlaw v g) : f = g := by
  rcases Nat.lt_trichotomy f.position g.position with hLess | hSame | hMore
  · obtain ⟨n, hn⟩ := hg.2 f hLess
    exact absurd hn (hf.1 n)
  · exact Field.position_injective hSame
  · obtain ⟨n, hn⟩ := hf.2 g hMore
    exact absurd hn (hg.1 n)

theorem FirstFlaw.untellable_iff {v : Value} {f : Field} (h : FirstFlaw v f) :
    Untellable v ↔ (v.field f.name).isTellable = false := by
  constructor
  · rintro ⟨g, hFlaw, hTell⟩
    rwa [h.unique hFlaw]
  · intro hTell
    exact ⟨f, h, hTell⟩

theorem ofValue_toValue (l : Layout) : ofValue l.toValue = .ok l := by
  refine ofValue_eq_ok_iff.mpr fun f => ?_
  cases f <;> rfl

end Layout

namespace Payload

/-- Tile number `i` of a payload is an object with the given layout, and all tiles before it are in
order. -/
structure TileAt (v : Value) (items : List Value) (i : Nat) (layout : Value) : Prop where
  tiles : v.field "tiles" = .array items
  before : ∀ j < i, ∀ u, items[j]? = some u → ∃ t : Tile, t.ReadFrom u
  here : ∃ fs, items[i]? = some (.object fs) ∧ (Value.object fs).field "layout" = layout

variable {v l : Value} {items : List Value} {i : Nat} {fs : Json.Fields} {w : Violation}

theorem layoutCheck_eq_ok_iff_ofValue {layout : Layout} :
    layoutCheck v = .ok layout ↔ Layout.ofValue v = .ok layout := by
  rw [layoutCheck_eq_ok_iff, Layout.ofValue_eq_ok_iff]

theorem layoutCheck_of_kind_ne (h : Kind.of v ≠ .object) :
    layoutCheck v = .error ⟨[], Form.mismatchReason .object v⟩ := by
  have hFields : fields v = .error ⟨[], Form.mismatchReason .object v⟩ := by
    unfold fields
    split
    · exact absurd rfl h
    · exact mismatch_eq .object _
  rw [layoutCheck, hFields, error_bind]

theorem exists_count_iff : (∃ c, count v = .ok c) ↔ ∃ n, v.IsSafeNatural n := by
  rw [← Layout.exists_readCount_iff (f := .initialSkip)]
  exact exists_congr fun c => count_eq_ok_iff.trans Layout.readCount_eq_ok_iff.symm

theorem firstFlaw_of_layoutCheck (h : layoutCheck (.object fs) = .error w) :
    ∃ f, Layout.FirstFlaw (.object fs) f ∧ w.path = [.key f.name] := by
  have hFields : Strided.ofFieldsM (fun f => field fs f.name count) = .error w := h
  obtain ⟨f, hFail, hBefore⟩ := Strided.ofFieldsM_eq_error_iff.mp hFields
  obtain ⟨w', hCount, rfl⟩ := within_eq_error_iff.mp hFail
  obtain ⟨turn, hFirst⟩ := count_follows.first hCount
  refine ⟨f, ⟨fun n hn => ?_, fun g hg => ?_⟩, ?_⟩
  · obtain ⟨c, hOk⟩ := exists_count_iff.mpr ⟨n, hn⟩
    have hSame : Except.error w' = Except.ok c := hCount.symm.trans hOk
    cases hSame
  · obtain ⟨c, hOk⟩ := hBefore g hg
    exact exists_count_iff.mp ⟨c, within_eq_ok_iff.mp hOk⟩
  · rw [path_of_count hFirst.1]

theorem tileCheck_of_layout_error (h : layoutCheck ((Value.object fs).field "layout") = .error w) :
    tileCheck (.object fs) = .error ⟨.key "layout" :: w.path, w.reason⟩ := by
  have hField : field fs "layout" layoutCheck = .error ⟨.key "layout" :: w.path, w.reason⟩ :=
    within_eq_error_iff.mpr ⟨w, h, rfl⟩
  simp only [tileCheck, fields, ok_bind, hField, error_bind]

theorem path_of_tileCheck {layout : Layout}
    (hLayout : layoutCheck ((Value.object fs).field "layout") = .ok layout)
    (h : tileCheck (.object fs) = .error w) : ∃ rest, w.path = .key "v" :: rest := by
  have hField : field fs "layout" layoutCheck = .ok layout := within_eq_ok_iff.mpr hLayout
  simp only [tileCheck, fields, ok_bind, hField] at h
  rcases bind_eq_error_iff.mp h with hValues | ⟨xs, -, hNone⟩
  · obtain ⟨w', -, rfl⟩ := within_eq_error_iff.mp hValues
    exact ⟨w'.path, rfl⟩
  · cases hNone

theorem check_eq_error_iff (hTiles : v.field "tiles" = .array items) :
    check v = .error w ↔ ∃ k u w', items[k]? = some u ∧ tileCheck u = .error w' ∧
      (∀ j < k, ∀ u, items[j]? = some u → ∃ t, tileCheck u = .ok t) ∧
      w = ⟨.key "tiles" :: .index k :: w'.path, w'.reason⟩ := by
  obtain ⟨fs, rfl⟩ := exists_fields hTiles Value.noConfusion
  have hField : (Json.Fields.get? fs "tiles").getD .absent = .array items := hTiles
  have hCheck : check (.object fs) = within (.key "tiles") (Schema.items tileCheck (.array items)) := by
    rw [check, fields, ok_bind, field, hField]
  rw [hCheck, within_eq_error_iff]
  constructor
  · rintro ⟨w', hItems, rfl⟩
    obtain ⟨k, u, w'', hItem, hTile, hBefore, rfl⟩ := items_array_eq_error_iff.mp hItems
    exact ⟨k, u, w'', hItem, hTile, hBefore, rfl⟩
  · rintro ⟨k, u, w', hItem, hTile, hBefore, rfl⟩
    exact ⟨_, items_array_eq_error_iff.mpr ⟨k, u, w', hItem, hTile, hBefore, rfl⟩, rfl⟩

theorem parse_eq_error_iff {e : Error} :
    parse v = .error e ↔ ∃ w, check v = .error w ∧ e = Error.ofViolation w := by
  unfold parse
  cases check v with
  | ok tiles => simp [Except.mapError]
  | error w => simp [Except.mapError, eq_comm]

theorem TileAt.check_eq_error (h : TileAt v items i l) (hLayout : layoutCheck l = .error w) :
    check v = .error ⟨.key "tiles" :: .index i :: .key "layout" :: w.path, w.reason⟩ := by
  obtain ⟨fs, hItem, rfl⟩ := h.here
  refine (check_eq_error_iff h.tiles).mpr
    ⟨i, _, _, hItem, tileCheck_of_layout_error hLayout, fun j hj u hu => ?_, rfl⟩
  obtain ⟨t, hRead⟩ := h.before j hj u hu
  exact ⟨t, tileCheck_eq_ok_iff.mpr hRead⟩

theorem Error.layout_of_name {k : Nat} {path : Path} {reason : Reason}
    (h : (Failure.payload (ofViolation ⟨.key "tiles" :: .index k :: path, reason⟩)).name =
      "MalformedLayoutError") :
    ∃ rest field, path = .key "layout" :: rest ∧
      ofViolation ⟨.key "tiles" :: .index k :: path, reason⟩ = .layout (Number.ofNat k) field reason := by
  generalize hError : ofViolation ⟨.key "tiles" :: .index k :: path, reason⟩ = e at h
  unfold ofViolation at hError
  split at hError
  · rename_i n hSteps
    simp only [List.cons.injEq, Step.index.injEq, true_and] at hSteps
    obtain ⟨rfl, rfl⟩ := hSteps
    exact ⟨_, _, rfl, hError.symm⟩
  · rename_i n f hSteps
    simp only [List.cons.injEq, Step.index.injEq, true_and] at hSteps
    obtain ⟨rfl, rfl⟩ := hSteps
    exact ⟨_, _, rfl, hError.symm⟩
  · subst hError
    have hOther : "MalformedPayloadError" = "MalformedLayoutError" := h
    exact absurd hOther (by decide)

/-- What is refused for its layout although the layout at hand is sound is a later tile. -/
theorem TileAt.later (h : TileAt v items i l) {layout : Layout} (hLayout : layoutCheck l = .ok layout)
    {e : Error} (hParse : parse v = .error e) (hName : (Failure.payload e).name = "MalformedLayoutError") :
    ∃ k field reason, i < k ∧ k < items.length ∧ e = .layout (Number.ofNat k) field reason := by
  obtain ⟨w, hCheck, rfl⟩ := parse_eq_error_iff.mp hParse
  obtain ⟨k, u, w', hItem, hTile, -, rfl⟩ := (check_eq_error_iff h.tiles).mp hCheck
  obtain ⟨hk, -⟩ := List.getElem?_eq_some_iff.mp hItem
  obtain ⟨fs, hHere, rfl⟩ := h.here
  obtain ⟨rest, field, hSteps, hError⟩ := Error.layout_of_name hName
  refine ⟨k, field, w'.reason, ?_, hk, hError⟩
  rcases Nat.lt_trichotomy k i with hLess | rfl | hMore
  · obtain ⟨t, hRead⟩ := h.before k hLess u hItem
    rw [tileCheck_eq_ok_iff.mpr hRead] at hTile
    cases hTile
  · obtain rfl := Option.some.inj (hItem.symm.trans hHere)
    obtain ⟨rest', hValues⟩ := path_of_tileCheck hLayout hTile
    rw [hSteps] at hValues
    exact absurd (Step.key.inj (List.cons.inj hValues).1) (by decide)
  · exact hMore

theorem TileAt.report (h : TileAt v items i l) (hPlain : ∀ xs, l ≠ .array xs) {e : Layout.Error}
    (hError : Layout.ofValue l = .error e) :
    ∃ e' field path, parse v = .error e' ∧
      (Failure.payload e').ReportsLayout (Number.ofNat i) field path ∧
      (Layout.Untellable l → e = .untold) ∧
      (¬ Layout.Untellable l →
        (Failure.assembly (.tile (.layout (Number.ofNat i) e))).ReportsLayout (Number.ofNat i) field path) := by
  have hParse {w : Violation} (hCheck : layoutCheck l = .error w) : parse v = .error
      (.ofViolation ⟨.key "tiles" :: .index i :: .key "layout" :: w.path, w.reason⟩) :=
    parse_eq_error_iff.mpr ⟨_, h.check_eq_error hCheck, rfl⟩
  by_cases hKind : Kind.of l = .object
  · obtain ⟨fs, rfl⟩ := kind_eq_object_iff.mp hKind
    cases hCheck : layoutCheck (.object fs) with
    | ok layout =>
      rw [layoutCheck_eq_ok_iff_ofValue.mp hCheck] at hError
      cases hError
    | error w =>
      obtain ⟨f, hFlaw, hPath⟩ := firstFlaw_of_layoutCheck hCheck
      have hParsed := hParse hCheck
      rw [hPath] at hParsed
      obtain ⟨hBare, -⟩ | ⟨-, g, hFlaw', hTold⟩ := Layout.ofValue_error hError
      · exact absurd trivial hBare
      obtain rfl := hFlaw.unique hFlaw'
      refine ⟨_, _, _, hParsed, ⟨rfl, rfl⟩, fun hTell => ?_, fun hTell => ?_⟩
      · rw [hFlaw.untellable_iff] at hTell
        simpa [hTell] using hTold
      · rw [hFlaw.untellable_iff, Bool.not_eq_false] at hTell
        rw [if_pos hTell] at hTold
        cases e with
        | missing => cases hTold
        | untold => cases hTold
        | notInteger g got =>
          cases hTold
          exact ⟨rfl, rfl⟩
        | negative g got =>
          cases hTold
          exact ⟨rfl, rfl⟩
  · have hBare : ¬ l.IsComposite := by
      cases l with
      | object fs => exact absurd rfl hKind
      | array xs => exact absurd rfl (hPlain xs)
      | _ => exact id
    rw [Layout.ofValue_of_not_isComposite hBare] at hError
    cases hError
    refine ⟨_, _, _, hParse (layoutCheck_of_kind_ne hKind), ⟨rfl, rfl⟩, ?_, fun _ => ⟨rfl, rfl⟩⟩
    rintro ⟨f, ⟨hFlaw, -⟩, hTell⟩
    cases l with
    | object fs => exact absurd rfl hKind
    | array xs => exact absurd rfl (hPlain xs)
    | _ => cases hTell

def RefusesLayout (v : Value) : Prop :=
  ∃ e, parse v = .error e ∧ (Failure.payload e).name = "MalformedLayoutError"

theorem TileAt.refusesLayout_of_array {xs : List Value} (h : TileAt v items i (.array xs)) : RefusesLayout v := by
  have hCheck := layoutCheck_of_kind_ne (v := .array xs) Kind.noConfusion
  exact ⟨_, parse_eq_error_iff.mpr ⟨_, h.check_eq_error hCheck, rfl⟩, rfl⟩

end Payload

theorem Layout.ofValue_array (xs : List Value) : ofValue (.array xs) = .error (.notInteger .initialSkip .absent) := rfl

/-- The layout of a tile that was read is sound, so that planning refuses nothing but its ranges. -/
theorem Tile.plan_draft (t : Tile) (n size : Number) : t.draft.plan n size =
    (Plan.ofLayout t.layout n (.ofArray t.values) size).mapError .overflow := by
  simp only [Tile.draft, TileDraft.plan, Layout.ofValue_toValue]

namespace Assembly

theorem checkCoverage_eq_error {dtype : DType} {c : Canvas dtype} {e : Error}
    (h : checkCoverage c = .error e) : ∃ missing first size, e = .uncovered missing first size := by
  unfold checkCoverage at h
  split at h
  · cases h
  · split at h
    · exact ⟨_, _, _, (Except.error.inj h).symm⟩
    · cases h

theorem planAll_drafts_error {tiles : List Tile} {size : Number} {e : Plan.Error}
    (h : planAll (tiles.map Tile.draft) size = .error e) : ∃ o, e = .overflow o := by
  obtain ⟨i, draft, hDraft, hPlan, -⟩ := mapM_zipIdx_eq_error_iff.mp h
  obtain ⟨t, -, rfl⟩ := List.mem_map.mp (List.mem_of_getElem? hDraft)
  have hPlan : t.draft.plan (Number.ofNat i) size = .error e := hPlan
  rw [Tile.plan_draft] at hPlan
  cases hLayout : Plan.ofLayout t.layout (Number.ofNat i) (.ofArray t.values) size with
  | ok p =>
    rw [hLayout] at hPlan
    cases hPlan
  | error o =>
    rw [hLayout] at hPlan
    exact ⟨o, (Except.error.inj hPlan).symm⟩

end Assembly

theorem assemble_drafts_error {tiles : List Tile} {x y : Number} {options : Assembly.Options}
    {e : Assembly.Error} (h : assemble (tiles.map Tile.draft) (.number x) (.number y) options = .error e) :
    (Failure.assembly e).name ∈ ["InvalidShapeError", "OutOfBoundsError", "IncompleteCoverageError"] := by
  cases hExtent : Extent.ofDimensions (.number x) (.number y) with
  | error cause =>
    rw [Assembly.assemble_of_extent_error hExtent] at h
    cases h
    cases cause with
    | notDimensions rows cols => simp [Failure.name, Failure.assemblyName]
    | tooLarge rows cols => simp [Failure.name, Failure.assemblyName]
    | untold => exact absurd hExtent (Extent.ofDimensions_number_ne_untold x y)
  | ok extent =>
    cases hPlans : Assembly.planAll (tiles.map Tile.draft) (Number.ofNat extent.size) with
    | error cause =>
      rw [Assembly.assemble_of_plan_error hExtent hPlans] at h
      cases h
      obtain ⟨o, rfl⟩ := Assembly.planAll_drafts_error hPlans
      simp [Failure.name, Failure.assemblyName]
    | ok plans =>
      rw [Assembly.assemble_of_plans hExtent hPlans] at h
      cases hCoverage : Assembly.checkCoverage (Assembly.scatter extent options plans) with
      | ok u =>
        rw [hCoverage] at h
        cases h
      | error cause =>
        rw [hCoverage] at h
        cases h
        obtain ⟨missing, first, size, rfl⟩ := Assembly.checkCoverage_eq_error hCoverage
        simp [Failure.name, Failure.assemblyName]

/-- Planning and reading a payload refuse the same layouts and report the same tile, field and path,
unless the flaw cannot be told: then planning fails under another name. Tiles behind the one at hand are
looked at only if its layout is sound. Tiles that were read are never refused for their layout. -/
theorem layout_checks_agree {v l : Value} {items : List Value} {i : Nat} (h : Payload.TileAt v items i l) :
    ((∀ xs, l ≠ .array xs) →
      (items.length = i + 1 → (Payload.RefusesLayout v ↔ ∃ e, Layout.ofValue l = .error e)) ∧
      (∀ e, Layout.ofValue l = .error e → ∃ e' field path, Payload.parse v = .error e' ∧
        (Failure.payload e').ReportsLayout (Number.ofNat i) field path ∧
        let told := Failure.assembly (.tile (.layout (Number.ofNat i) e))
        (Layout.Untellable l → told.name = "TypeError") ∧
        (¬ Layout.Untellable l → told.ReportsLayout (Number.ofNat i) field path)) ∧
      ∀ layout, Layout.ofValue l = .ok layout → ∀ e, Payload.parse v = .error e →
        (Failure.payload e).name = "MalformedLayoutError" →
        ∃ k field reason, i < k ∧ k < items.length ∧ e = .layout (Number.ofNat k) field reason) ∧
    (∀ xs, l = .array xs → (∃ e, Layout.ofValue l = .error e) ∧ Payload.RefusesLayout v) ∧
    ∀ text tiles, Payload.parseText text = .ok tiles → ∀ x y options e,
      assemble (tiles.map Tile.draft) (.number x) (.number y) options = .error e →
      (Failure.assembly e).name ∈ ["InvalidShapeError", "OutOfBoundsError", "IncompleteCoverageError"] := by
  refine ⟨fun hPlain => ⟨fun hLast => ⟨?_, ?_⟩, ?_, ?_⟩, ?_, ?_⟩
  · rintro ⟨e, hParse, hName⟩
    cases hLayout : Layout.ofValue l with
    | error e' => exact ⟨e', rfl⟩
    | ok layout =>
      have hCheck := Payload.layoutCheck_eq_ok_iff_ofValue.mpr hLayout
      obtain ⟨k, field, reason, hAfter, hIn, -⟩ := h.later hCheck hParse hName
      omega
  · rintro ⟨e, hError⟩
    obtain ⟨e', field, path, hParse, hReport, -⟩ := h.report hPlain hError
    exact ⟨e', hParse, hReport.1⟩
  · intro e hError
    obtain ⟨e', field, path, hParse, hReport, hUntold, hTold⟩ := h.report hPlain hError
    refine ⟨e', field, path, hParse, hReport, fun hTell => ?_, hTold⟩
    rw [hUntold hTell]
    rfl
  · intro layout hLayout e hParse hName
    exact h.later (Payload.layoutCheck_eq_ok_iff_ofValue.mpr hLayout) hParse hName
  · rintro xs rfl
    exact ⟨⟨_, Layout.ofValue_array xs⟩, h.refusesLayout_of_array⟩
  · intro text tiles _ x y options e hError
    exact assemble_drafts_error hError

def untellableLayout : Value := .object [("initial_skip", .object [("toString", .number Number.zero)])]

theorem layout_checks_agree_untellable :
    let tile := Value.object [("layout", untellableLayout), ("v", .array [])]
    let v := Value.object [("tiles", .array [tile])]
    Payload.TileAt v [tile] 0 untellableLayout ∧ Payload.RefusesLayout v ∧
      ∃ e, Layout.ofValue untellableLayout = .error e ∧
        (Failure.assembly (.tile (.layout (Number.ofNat 0) e))).name = "TypeError" := by
  intro tile v
  have hTile : Payload.TileAt v [tile] 0 untellableLayout :=
    ⟨rfl, fun j hj => absurd hj (Nat.not_lt_zero j), _, rfl, rfl⟩
  have hFlaw : Layout.FirstFlaw untellableLayout .initialSkip := by
    refine ⟨?_, fun g hg => absurd hg (Nat.not_lt_zero _)⟩
    rintro n ⟨x, hx, -⟩
    cases hx
  obtain ⟨hPlain, -⟩ := layout_checks_agree hTile
  obtain ⟨hVerdict, hReport, -⟩ := hPlain fun xs => Value.noConfusion
  have hRefused : Layout.ofValue untellableLayout = .error .untold := rfl
  obtain ⟨e', field, path, -, -, hUntold, -⟩ := hReport _ hRefused
  exact ⟨hTile, (hVerdict rfl).mpr ⟨_, hRefused⟩, _, hRefused, hUntold ⟨_, hFlaw, rfl⟩⟩

end CubeSlice
