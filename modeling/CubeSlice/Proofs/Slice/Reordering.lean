import CubeSlice.Proofs.Slice.Acceptance
import Mathlib.Order.CompletePartialOrder

/-!
# Tiles in any order

Where no two tiles write to one offset, their order has no influence on what is assembled: an offset
belongs to one tile at most, and what this tile leaves there does not depend on the others. Tiles that
cut a buffer into contiguous pieces are of this kind, and whichever way they come, the buffer is put
together again.
-/

namespace CubeSlice

section Lists

variable {α β : Type}

theorem eq_of_perm_of_length_le {l l' : List β} (hPerm : l.Perm l') (h : l.length ≤ 1) : l = l' := by
  cases l with
  | nil => exact hPerm.nil_eq
  | cons b rest =>
    obtain rfl : rest = [] := List.eq_nil_of_length_eq_zero (by simpa using h)
    exact hPerm.singleton_eq

theorem length_filterMap_le {w : α → Option β} {l : List α}
    (h : l.Pairwise fun a b => w a = none ∨ w b = none) : (l.filterMap w).length ≤ 1 := by
  induction l with
  | nil => exact Nat.zero_le 1
  | cons a l ih =>
    obtain ⟨hHead, hTail⟩ := List.pairwise_cons.mp h
    cases ha : w a with
    | none => simpa only [List.filterMap_cons_none ha] using ih hTail
    | some b =>
      have hNil : l.filterMap w = [] := by
        rw [List.filterMap_eq_nil_iff]
        intro c hc
        rcases hHead c hc with hNone | hNone
        · rw [ha] at hNone
          cases hNone
        · exact hNone
      rw [List.filterMap_cons_some ha, hNil]
      exact Nat.le_refl 1

end Lists

namespace Plan

variable {l : Layout} {values : TileValues} {i j size : Number}

theorem overflow?_eq_none_iff : overflow? l i values size = none ↔
    firstOverflow l.initialSkip.number l.superstride.number l.chunkSize.number size
      l.iterations.number = none ∧
    firstOverflow Number.zero l.substride.number l.chunkSize.number (Number.ofNat values.count)
      l.iterations.number = none := by
  rw [overflow?]
  cases firstOverflow l.initialSkip.number l.superstride.number l.chunkSize.number size
      l.iterations.number <;>
    cases firstOverflow Number.zero l.substride.number l.chunkSize.number (Number.ofNat values.count)
      l.iterations.number <;> simp

theorem exists_ofLayout_of_ofLayout {p : Plan} (h : ofLayout l i values size = .ok p) :
    ∃ q, ofLayout l j values size = .ok q := by
  unfold ofLayout at h ⊢
  split
  · exact ⟨_, rfl⟩
  · rename_i hBusy
    rw [if_neg hBusy] at h
    cases hNone : overflow? l i values size with
    | some o =>
      rw [hNone] at h
      cases h
    | none =>
      rw [overflow?_eq_none_iff.mpr (overflow?_eq_none_iff.mp hNone)]
      exact ⟨_, rfl⟩

end Plan

namespace TileDraft

open Traversal

variable {t : TileDraft} {o : Nat} {i j size : Number}

/-- The offsets that runs of the tile land on, all runs being counted in exact integers. -/
def footprint (t : TileDraft) : Set Nat :=
  {o | ∃ s, Layout.Holds t.layout s ∧ ∃ i k, s.Lands o i k}

theorem leaves?_eq_none_iff {dtype : DType} : t.leaves? dtype o = none ↔ o ∉ t.footprint := by
  rw [leaves?, Option.map_eq_none_iff, lastWrite?_eq_none_iff]
  constructor
  · rintro h ⟨s, hHolds, i, k, hLands⟩
    exact h s hHolds i k hLands
  · intro h s hHolds i k hLands
    exact h ⟨s, hHolds, i, k, hLands⟩

theorem exists_plan_of_plan {p : Plan} (h : t.plan i size = .ok p) : ∃ q, t.plan j size = .ok q := by
  -- the number of the tile is told in failures only
  unfold plan at h ⊢
  cases hLayout : Layout.ofValue t.layout with
  | error e =>
    rw [hLayout] at h
    cases h
  | ok l =>
    rw [hLayout] at h
    cases hValues : t.values with
    | none =>
      rw [hValues] at h
      cases hIdle : l.isIdle with
      | true => exact ⟨_, if_pos hIdle⟩
      | false =>
        dsimp only at h
        rw [if_neg (by simp [hIdle])] at h
        cases h
    | some values =>
      rw [hValues] at h
      obtain ⟨q, hOk⟩ := Plan.exists_ofLayout_of_ofLayout (mapError_eq_ok_iff.mp h)
      exact ⟨q, mapError_eq_ok_iff.mpr hOk⟩

end TileDraft

/-- No offset is written by two of the tiles. -/
def Apart (tiles : List TileDraft) : Prop :=
  tiles.Pairwise fun t u => Disjoint t.footprint u.footprint

variable {tiles tiles' : List TileDraft} {size : Nat}

theorem bareOffsets_eq_of_perm (h : tiles.Perm tiles') : bareOffsets tiles size = bareOffsets tiles' size := by
  ext o
  simp only [bareOffsets, Set.mem_ofPred_eq, ← Write.forall_lastWrite?_eq_none_iff, h.mem_iff]

namespace Assembly

open Traversal

variable {rows cols : Json.Value} {options : Options} {extent : Extent} {plans plans' : List Plan}

theorem exists_planAll_of_perm {size : Number} (hPerm : tiles.Perm tiles')
    (h : planAll tiles size = .ok plans) : ∃ plans', planAll tiles' size = .ok plans' := by
  cases hPlans : planAll tiles' size with
  | ok plans' => exact ⟨plans', rfl⟩
  | error e =>
    obtain ⟨n, t, hTile, hError, -⟩ := mapM_zipIdx_eq_error_iff.mp hPlans
    obtain ⟨m, hTile'⟩ := List.mem_iff_getElem?.mp (hPerm.mem_iff.mpr (List.mem_of_getElem? hTile))
    obtain ⟨p, -, hPlan⟩ := exists_of_mapM_zipIdx_eq_ok h hTile'
    obtain ⟨q, hOk⟩ := @TileDraft.exists_plan_of_plan t _ (Number.ofNat n) _ p hPlan
    cases hOk.symm.trans hError

theorem sliceOf_eq_of_perm (hApart : Apart tiles) (hPerm : tiles.Perm tiles')
    (hCount : ∀ t ∈ tiles, t.Countable) (hPlans : planAll tiles (Number.ofNat extent.size) = .ok plans)
    (hPlans' : planAll tiles' (Number.ofNat extent.size) = .ok plans') :
    sliceOf extent options plans = sliceOf extent options plans' := by
  have hCount' : ∀ t ∈ tiles', t.Countable := fun t hMem => hCount t (hPerm.mem_iff.mpr hMem)
  have hBuffer : (scatter extent options plans).buffer = (scatter extent options plans').buffer := by
    refine Buffer.ext fun o => ?_
    change (sliceOf extent options plans).data.get? o = (sliceOf extent options plans').data.get? o
    by_cases ho : o < extent.size
    · -- one tile at most leaves something here, and a list of one element has no other order
      have hOnce : tiles.Pairwise fun t u =>
          t.leaves? options.dtype o = none ∨ u.leaves? options.dtype o = none := by
        refine hApart.imp fun {t u} hDisjoint => ?_
        rw [TileDraft.leaves?_eq_none_iff, TileDraft.leaves?_eq_none_iff]
        by_cases hMem : o ∈ t.footprint
        · exact .inr (Set.disjoint_left.mp hDisjoint hMem)
        · exact .inl hMem
      rw [get?_sliceOf hPlans hCount ho, get?_sliceOf hPlans' hCount' ho,
        eq_of_perm_of_length_le (hPerm.filterMap _) (length_filterMap_le hOnce)]
    · have hNone (plans : List Plan) : (sliceOf extent options plans).data.get? o = none :=
        Array.getElem?_eq_none (Nat.le_of_not_lt fun hLess =>
          ho (Nat.lt_of_lt_of_eq hLess (sliceOf extent options plans).size_eq))
      rw [hNone, hNone]
  simp only [sliceOf, hBuffer]

/-- Tiles that are apart end alike in either order, unless some of them cannot be planned: then which
tile is refused depends on the order. -/
theorem assemble_of_perm (hApart : Apart tiles) (hPerm : tiles.Perm tiles')
    (hCount : ∀ t ∈ tiles, t.Countable) :
    assemble tiles rows cols options = assemble tiles' rows cols options ∨
    ∃ e e', assemble tiles rows cols options = .error (.tile e) ∧
      assemble tiles' rows cols options = .error (.tile e') := by
  have hCount' : ∀ t ∈ tiles', t.Countable := fun t hMem => hCount t (hPerm.mem_iff.mpr hMem)
  cases hExtent : Extent.ofDimensions rows cols with
  | error e => exact .inl (by rw [assemble_of_extent_error hExtent, assemble_of_extent_error hExtent])
  | ok extent =>
    cases hPlans : planAll tiles (Number.ofNat extent.size) with
    | error e =>
      cases hPlans' : planAll tiles' (Number.ofNat extent.size) with
      | error e' =>
        exact .inr ⟨e, e', assemble_of_plan_error hExtent hPlans, assemble_of_plan_error hExtent hPlans'⟩
      | ok plans' =>
        obtain ⟨plans, hOk⟩ := exists_planAll_of_perm hPerm.symm hPlans'
        cases hOk.symm.trans hPlans
    | ok plans =>
      obtain ⟨plans', hPlans'⟩ := exists_planAll_of_perm hPerm hPlans
      have hSlice := @sliceOf_eq_of_perm tiles tiles' options extent plans plans' hApart hPerm hCount hPlans hPlans'
      left
      obtain ⟨dtype, requireCoverage⟩ := options
      cases requireCoverage with
      | false =>
        rw [assemble_of_plans_unmarked hCount hExtent hPlans,
          assemble_of_plans_unmarked hCount' hExtent hPlans', hSlice]
      | true =>
        -- which offsets are bare is a question about the tiles as a set
        have hBare := @bareOffsets_eq_of_perm tiles tiles' extent.size hPerm
        rcases @assemble_of_plans_marked dtype _ _ _ _ _ hCount' hExtent hPlans' with
          ⟨hEmpty, hOk⟩ | ⟨first, hLeast, hError⟩
        · rw [hOk, assemble_of_plans_covered hCount hExtent hPlans (hBare.trans hEmpty), hSlice]
        · rw [← hBare] at hLeast hError
          rcases @assemble_of_plans_marked dtype _ _ _ _ _ hCount hExtent hPlans with
            ⟨hEmpty, -⟩ | ⟨first', hLeast', hError'⟩
          · exact absurd hLeast.1 (hEmpty ▸ Set.notMem_empty first)
          · rw [hError, hError', hLeast.unique hLeast']

end Assembly

/-- Runs that lay out `count` values from `start` on: each puts what it reads where it belongs, and what
they read together are all of the values. -/
structure Strided.Lays (s : Strided Nat) (start count : Nat) : Prop where
  start : s.initialSkip = start
  straight : ∀ i < s.iterations, i * s.superstride = i * s.substride
  complete : ∀ p, p < count ↔ ∃ i k, i < s.iterations ∧ k < s.chunkSize ∧ i * s.substride + k = p

namespace Strided.Lays

variable {s : Strided Nat} {start count o i k : Nat}

theorem single (start count substride superstride : Nat) :
    Lays ⟨start, count, 1, substride, superstride⟩ start count where
  start := rfl
  straight i hi := by
    obtain rfl : i = 0 := Nat.lt_one_iff.mp hi
    rw [Nat.zero_mul, Nat.zero_mul]
  complete p := by
    constructor
    · intro hp
      exact ⟨0, p, Nat.one_pos, hp, by rw [Nat.zero_mul, Nat.zero_add]⟩
    · rintro ⟨i, k, hi, hk, rfl⟩
      obtain rfl : i = 0 := Nat.lt_one_iff.mp hi
      rwa [Nat.zero_mul, Nat.zero_add]

theorem source_of_lands (h : s.Lays start count) (hLands : s.Lands o i k) :
    start + (i * s.substride + k) = o := by
  obtain ⟨hRun, -, hPlace⟩ := hLands
  rw [h.start, h.straight i hRun, Nat.add_assoc] at hPlace
  exact hPlace

theorem exists_lands_iff (h : s.Lays start count) :
    (∃ i k, s.Lands o i k) ↔ start ≤ o ∧ o < start + count := by
  constructor
  · rintro ⟨i, k, hLands⟩
    have hSource := h.source_of_lands hLands
    have hCount := (h.complete _).mpr ⟨i, k, hLands.1, hLands.2.1, rfl⟩
    omega
  · rintro ⟨hStart, hEnd⟩
    have hPlace : o - start < count := by omega
    obtain ⟨i, k, hRun, hChunk, hSource⟩ := (h.complete _).mp hPlace
    refine ⟨i, k, hRun, hChunk, ?_⟩
    rw [h.start, h.straight i hRun]
    omega

theorem fits (h : s.Lays start count) (hEnd : start + count ≤ size) : s.Fits size count := by
  intro _ hChunk i hRun
  have hLast := (h.complete (i * s.substride + (s.chunkSize - 1))).mpr
    ⟨i, s.chunkSize - 1, hRun, by omega, rfl⟩
  rw [RunFits, h.start, h.straight i hRun]
  omega

end Strided.Lays

/-- The tile carries these values, in this order, for the offsets from `start` on. -/
def TileDraft.Transcribes (t : TileDraft) (start : Nat) (values : List Number) : Prop :=
  t.values = some (.ofArray values.toArray) ∧ ∃ s, Layout.Holds t.layout s ∧ s.Lays start values.length

namespace TileDraft.Transcribes

variable {t : TileDraft} {start o : Nat} {values : List Number}

theorem mem_footprint_iff (h : t.Transcribes start values) :
    o ∈ t.footprint ↔ start ≤ o ∧ o < start + values.length := by
  obtain ⟨-, s, hHolds, hLays⟩ := h
  rw [← hLays.exists_lands_iff]
  constructor
  · rintro ⟨s', hHolds', hLands⟩
    obtain rfl := hHolds.unique hHolds'
    exact hLands
  · exact fun hLands => ⟨s, hHolds, hLands⟩

theorem leaves?_eq (h : t.Transcribes start values) (dtype : DType) (o : Nat) :
    t.leaves? dtype o = if start ≤ o then values[o - start]?.map dtype.round else none := by
  cases hWrite : t.lastWrite? o with
  | none =>
    have hNone : t.leaves? dtype o = none := by rw [leaves?, hWrite, Option.map_none]
    rw [hNone]
    rw [leaves?_eq_none_iff, h.mem_footprint_iff] at hNone
    split
    · rw [List.getElem?_eq_none (by omega)]
      rfl
    · rfl
  | some write =>
    obtain ⟨hValues, s, hHolds, hLays⟩ := h
    obtain ⟨s', i, k⟩ := write
    obtain ⟨hHolds', hLands, -⟩ := lastWrite?_eq_some_iff.mp hWrite
    obtain rfl := hHolds.unique hHolds'
    have hSource := hLays.source_of_lands hLands
    have hPlace : i * s.substride + k < values.length := (hLays.complete _).mpr ⟨i, k, hLands.1, hLands.2.1, rfl⟩
    have hOffset : o - start = i * s.substride + k := by omega
    have hValue : t.row.value (i * s.substride + k) = values[i * s.substride + k] := by
      rw [row_eq hValues]
      simp [TileValues.ofArray, hPlace]
    rw [leaves?, hWrite, if_pos (by omega), hOffset, List.getElem?_eq_getElem hPlace]
    simp only [Option.map_some, Canvas.stored, hValue]

theorem sound (h : t.Transcribes start values) (hEnd : start + values.length ≤ size) : t.Sound size := by
  obtain ⟨hValues, s, hHolds, hLays⟩ := h
  refine ⟨s, _, hHolds, hValues, ?_⟩
  simpa [TileValues.ofArray] using hLays.fits hEnd

theorem valued (h : t.Transcribes start values) (hLimit : values.length ≤ maxSafe) : t.Valued :=
  ⟨_, h.1, by simpa [TileValues.ofArray] using hLimit⟩

end TileDraft.Transcribes

/-- The tiles carry contiguous pieces of a buffer, one after the other, the first from `start` on. -/
inductive Cuts : List TileDraft → Nat → List Number → Prop
  | nil (start : Nat) : Cuts [] start []
  | cons {t : TileDraft} {tiles : List TileDraft} {start : Nat} {piece rest : List Number}
      (head : t.Transcribes start piece) (tail : Cuts tiles (start + piece.length) rest) :
      Cuts (t :: tiles) start (piece ++ rest)

namespace Cuts

variable {start : Nat} {buffer : List Number}

theorem transcribes (h : Cuts tiles start buffer) : ∀ t ∈ tiles, ∃ first piece,
    t.Transcribes first piece ∧ start ≤ first ∧ first + piece.length ≤ start + buffer.length := by
  induction h with
  | nil start => exact fun t hMem => absurd hMem List.not_mem_nil
  | @cons t tiles start piece rest head tail ih =>
    intro u hMem
    rw [List.length_append]
    rcases List.mem_cons.mp hMem with rfl | hTail
    · exact ⟨start, piece, head, Nat.le_refl start, by omega⟩
    · obtain ⟨first, values, hTranscribes, hFirst, hLast⟩ := ih u hTail
      exact ⟨first, values, hTranscribes, by omega, by omega⟩

theorem apart (h : Cuts tiles start buffer) : Apart tiles := by
  induction h with
  | nil start => exact .nil
  | @cons t tiles start piece rest head tail ih =>
    refine .cons (fun u hMem => Set.disjoint_left.mpr fun o ho hu => ?_) ih
    obtain ⟨first, values, hTranscribes, hFirst, -⟩ := tail.transcribes u hMem
    rw [head.mem_footprint_iff] at ho
    rw [hTranscribes.mem_footprint_iff] at hu
    omega

theorem filterMap_leaves? (h : Cuts tiles start buffer) (dtype : DType) (o : Nat) :
    tiles.filterMap (·.leaves? dtype o) =
      (if start ≤ o then buffer[o - start]?.map dtype.round else none).toList := by
  induction h with
  | nil start => simp
  | @cons t tiles start piece rest head tail ih =>
    have hHead := head.leaves?_eq dtype o
    rcases Nat.lt_or_ge o start with hBefore | hFrom
    · rw [if_neg (by omega)] at hHead ih ⊢
      rw [List.filterMap_cons_none hHead, ih]
    rw [if_pos hFrom] at hHead ⊢
    rcases Nat.lt_or_ge o (start + piece.length) with hHere | hLater
    · have hPlace : o - start < piece.length := by omega
      rw [List.getElem?_eq_getElem hPlace, Option.map_some] at hHead
      rw [if_neg (by omega)] at ih
      rw [List.filterMap_cons_some hHead, ih, List.getElem?_append_left hPlace,
        List.getElem?_eq_getElem hPlace]
      rfl
    · rw [List.getElem?_eq_none (by omega), Option.map_none] at hHead
      rw [if_pos hLater] at ih
      rw [List.filterMap_cons_none hHead, ih, List.getElem?_append_right (by omega), Nat.sub_sub]

theorem assemble_eq_ok {x y : Number} {r c : Nat} {options : Assembly.Options} (h : Cuts tiles 0 buffer)
    (hDimensions : AreDimensions x y r c) (hLength : buffer.length = r * c) (hPerm : tiles.Perm tiles') :
    ∃ slice, assemble tiles' (.number x) (.number y) options = .ok slice ∧
      slice.toList = buffer.map options.dtype.round := by
  obtain ⟨extent, hExtent, rfl, rfl⟩ := Extent.exists_ofDimensions_of_areDimensions hDimensions
  have hSize : buffer.length = extent.size := hLength
  have hSafe : extent.size ≤ maxSafe := extent.size_safe
  have hPiece : ∀ t ∈ tiles', t.Sound extent.size ∧ t.Valued := by
    intro t hMem
    obtain ⟨first, piece, hTranscribes, -, hEnd⟩ := h.transcribes t (hPerm.mem_iff.mpr hMem)
    exact ⟨hTranscribes.sound (by omega), hTranscribes.valued (by omega)⟩
  have hCount : ∀ t ∈ tiles', t.Countable := fun t hMem => (hPiece t hMem).2.countable
  obtain ⟨plans, hPlans⟩ := Assembly.exists_planAll_of_sound hPiece hSafe
  have hWritten (o : Nat) : tiles'.filterMap (·.leaves? options.dtype o) =
      (buffer[o]?.map options.dtype.round).toList := by
    have hOnce := h.filterMap_leaves? options.dtype o
    rw [if_pos (Nat.zero_le o), Nat.sub_zero] at hOnce
    rw [← hOnce]
    refine (eq_of_perm_of_length_le (hPerm.filterMap _) ?_).symm
    rw [hOnce]
    cases buffer[o]? <;> simp
  have hCovered : bareOffsets tiles' extent.size = ∅ := by
    refine Set.eq_empty_of_forall_notMem fun o ⟨ho, hBare⟩ => ?_
    have hNone := hWritten o
    rw [List.filterMap_eq_nil_iff.mpr, List.getElem?_eq_getElem (by omega)] at hNone
    · cases hNone
    · intro t hMem
      rw [TileDraft.leaves?, Write.forall_lastWrite?_eq_none_iff.mpr hBare t hMem, Option.map_none]
  refine ⟨_, Assembly.assemble_of_plans_covered hCount hExtent hPlans hCovered, List.ext_getElem? fun o => ?_⟩
  have hData : (Assembly.sliceOf extent options plans).toList[o]? =
      (Assembly.sliceOf extent options plans).data.get? o := Array.getElem?_toList
  rw [hData, List.getElem?_map]
  rcases Nat.lt_or_ge o extent.size with ho | ho
  · rw [Assembly.get?_sliceOf hPlans hCount ho, hWritten, List.getElem?_eq_getElem (by omega)]
    rfl
  · rw [List.getElem?_eq_none (by omega)]
    exact Array.getElem?_eq_none (Nat.le_trans (Assembly.sliceOf extent options plans).size_eq.le ho)

end Cuts

/-- The order of tiles that are apart cannot be seen in what is assembled, nor in which offsets are
missing; tiles that cut a buffer into pieces give it back in every order. -/
theorem assemble_reordered (tiles tiles' : List TileDraft) (rows cols : Json.Value)
    (options : Assembly.Options) (hPerm : tiles.Perm tiles') (hCount : ∀ t ∈ tiles, t.Countable) :
    (Apart tiles →
      (∀ slice, assemble tiles rows cols options = .ok slice ↔ assemble tiles' rows cols options = .ok slice) ∧
      ∀ missing first size, assemble tiles rows cols options = .error (.uncovered missing first size) ↔
        assemble tiles' rows cols options = .error (.uncovered missing first size)) ∧
    ∀ x y r c buffer, rows = .number x → cols = .number y → AreDimensions x y r c →
      buffer.length = r * c → Cuts tiles 0 buffer →
      ∃ slice, assemble tiles' rows cols options = .ok slice ∧
        slice.toList = buffer.map options.dtype.round := by
  constructor
  · intro hApart
    rcases Assembly.assemble_of_perm hApart hPerm hCount with hSame | ⟨e, e', hError, hError'⟩
    · rw [hSame]
      exact ⟨fun _ => Iff.rfl, fun _ _ _ => Iff.rfl⟩
    · rw [hError, hError']
      simp
  · rintro x y r c buffer rfl rfl hDimensions hLength hCuts
    exact hCuts.assemble_eq_ok hDimensions hLength hPerm

theorem TileDraft.transcribes_ofValues {s : Strided Nat} {start : Nat} (values : List Number)
    (hLays : s.Lays start values.length) (hSafe : ∀ f, s.get f ≤ maxSafe) :
    (TileDraft.ofValues s values).Transcribes start values :=
  ⟨rfl, s, holds_ofValues values hSafe, hLays⟩

/-- Three pieces of a row of six values, the first in two runs that overlap. -/
def piecesOfSix : List TileDraft :=
  [.ofValues ⟨0, 2, 2, 1, 1⟩ ([1, 2, 3].map Number.ofNat), .ofValues ⟨3, 2, 1, 0, 7⟩ ([4, 5].map Number.ofNat),
    .ofValues ⟨5, 1, 1, 0, 0⟩ ([6].map Number.ofNat)]

theorem cuts_piecesOfSix : Cuts piecesOfSix 0 ([1, 2, 3, 4, 5, 6].map Number.ofNat) := by
  have hOverlapping : Strided.Lays ⟨0, 2, 2, 1, 1⟩ 0 3 := by
    refine ⟨rfl, fun i _ => rfl, fun p => ⟨fun hp => ⟨p / 2, p - p / 2, ?_, ?_, ?_⟩, ?_⟩⟩
    · dsimp only
      omega
    · dsimp only
      omega
    · dsimp only
      omega
    · rintro ⟨i, k, hi, hk, rfl⟩
      dsimp only at hi hk ⊢
      omega
  have hFirst := TileDraft.transcribes_ofValues ([1, 2, 3].map Number.ofNat) hOverlapping
    (fun f => by cases f <;> decide)
  have hSecond := TileDraft.transcribes_ofValues ([4, 5].map Number.ofNat)
    (Strided.Lays.single 3 2 0 7) (fun f => by cases f <;> decide)
  have hThird := TileDraft.transcribes_ofValues ([6].map Number.ofNat)
    (Strided.Lays.single 5 1 0 0) (fun f => by cases f <;> decide)
  exact .cons hFirst (.cons hSecond (.cons hThird (.nil 6)))

theorem assemble_reordered_pieces : piecesOfSix.Perm piecesOfSix.reverse ∧
    (∀ t ∈ piecesOfSix, t.Countable) ∧ Apart piecesOfSix ∧
    (∀ slice, assemble piecesOfSix (.number (Number.ofNat 2)) (.number (Number.ofNat 3)) ⟨.double, true⟩ =
        .ok slice ↔
      assemble piecesOfSix.reverse (.number (Number.ofNat 2)) (.number (Number.ofNat 3)) ⟨.double, true⟩ =
        .ok slice) ∧
    ∃ slice, assemble piecesOfSix.reverse (.number (Number.ofNat 2)) (.number (Number.ofNat 3))
        ⟨.double, true⟩ = .ok slice ∧ slice.toList = [1, 2, 3, 4, 5, 6].map Number.ofNat := by
  have hPerm := piecesOfSix.reverse_perm.symm
  have hCuts := cuts_piecesOfSix
  have hCount : ∀ t ∈ piecesOfSix, t.Countable := by
    intro t hMem
    obtain ⟨first, piece, hTranscribes, -, hEnd⟩ := hCuts.transcribes t hMem
    exact (hTranscribes.valued (Nat.le_trans (Nat.le_trans (Nat.le_add_left _ _) hEnd) (by decide))).countable
  obtain ⟨hApart, hBuffer⟩ := assemble_reordered piecesOfSix piecesOfSix.reverse
    (.number (Number.ofNat 2)) (.number (Number.ofNat 3)) ⟨.double, true⟩ hPerm hCount
  have hDimensions : AreDimensions (Number.ofNat 2) (Number.ofNat 3) 2 3 :=
    ⟨Number.index?_ofNat (by decide), Number.index?_ofNat (by decide), by decide, by decide, by decide⟩
  obtain ⟨slice, hSlice, hList⟩ := hBuffer _ _ 2 3 _ rfl rfl hDimensions rfl hCuts
  refine ⟨hPerm, hCount, hCuts.apart, (hApart hCuts.apart).1, slice, hSlice, hList.trans ?_⟩
  exact List.map_id' _

end CubeSlice
