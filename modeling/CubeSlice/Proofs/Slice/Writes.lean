import Mathlib.Data.List.Forall2
import Mathlib.Data.Prod.Lex
import CubeSlice.Proofs.Tile.Scatter
import CubeSlice.Slice.Assembly

/-!
# Writes to an offset

A write to an offset is a tile, a run of it and a place in the run that falls on the offset, all in
exact integers. Writes are ordered by tile, then by run. Plans that passed the check do to a canvas
what all writes do in this order, so what an offset holds in the end comes from its last write.
-/

namespace CubeSlice

theorem getElem?_range_eq_some_iff {n i j : Nat} : (List.range n)[i]? = some j ↔ i < n ∧ i = j := by
  simp only [List.getElem?_eq_some_iff, List.length_range, List.getElem_range, exists_prop]

namespace Strided

/-- Place `k` of run `i` falls on offset `o`. -/
def Lands (s : Strided Nat) (o i k : Nat) : Prop :=
  i < s.iterations ∧ k < s.chunkSize ∧ s.initialSkip + i * s.superstride + k = o

def lastLanding? (s : Strided Nat) (o : Nat) : Option (Nat × Nat) :=
  ((List.range s.runs).filterMap fun i =>
    (placeOf (s.initialSkip + i * s.superstride) s.chunkSize o).map (i, ·)).getLast?

variable {s : Strided Nat} {o i k : Nat}

theorem lands_iff : s.Lands o i k ↔
    i < s.runs ∧ placeOf (s.initialSkip + i * s.superstride) s.chunkSize o = some k := by
  rw [placeOf_eq_some_iff, Lands, runs]
  split
  · rename_i hNone
    omega
  · exact Iff.rfl

theorem Lands.place_unique {l : Nat} (h : s.Lands o i k) (h' : s.Lands o i l) : k = l := by
  obtain ⟨-, -, hPlace⟩ := h
  obtain ⟨-, -, hPlace'⟩ := h'
  omega

theorem lastLanding?_eq_none_iff : s.lastLanding? o = none ↔ ∀ i k, ¬ s.Lands o i k := by
  rw [lastLanding?, getLast?_filterMap_eq_none_iff]
  constructor
  · intro h i k hLands
    obtain ⟨hRun, hPlace⟩ := lands_iff.mp hLands
    have hNone := h i (List.mem_range.mpr hRun)
    rw [hPlace] at hNone
    cases hNone
  · intro h i hi
    rw [Option.map_eq_none_iff]
    cases hPlace : placeOf (s.initialSkip + i * s.superstride) s.chunkSize o with
    | none => rfl
    | some k => exact absurd (lands_iff.mpr ⟨List.mem_range.mp hi, hPlace⟩) (h i k)

theorem lastLanding?_eq_some_iff :
    s.lastLanding? o = some (i, k) ↔ s.Lands o i k ∧ ∀ j l, s.Lands o j l → j ≤ i := by
  rw [lastLanding?, getLast?_filterMap_eq_some_iff]
  constructor
  · rintro ⟨n, i', hRange, hPlace, hAfter⟩
    obtain ⟨hRun, rfl⟩ := getElem?_range_eq_some_iff.mp hRange
    obtain ⟨k', hPlace, hEq⟩ := Option.map_eq_some_iff.mp hPlace
    cases hEq
    refine ⟨lands_iff.mpr ⟨hRun, hPlace⟩, fun j l hLands => ?_⟩
    obtain ⟨hRunJ, hPlaceJ⟩ := lands_iff.mp hLands
    by_contra hLater
    have hNone := hAfter j j (by omega) (List.getElem?_range hRunJ)
    rw [hPlaceJ] at hNone
    cases hNone
  · rintro ⟨hLands, hLast⟩
    obtain ⟨hRun, hPlace⟩ := lands_iff.mp hLands
    refine ⟨i, i, List.getElem?_range hRun, by rw [hPlace]; rfl, fun n j hLater hRange => ?_⟩
    obtain ⟨hRunJ, rfl⟩ := getElem?_range_eq_some_iff.mp hRange
    rw [Option.map_eq_none_iff]
    cases hPlaceJ : placeOf (s.initialSkip + n * s.superstride) s.chunkSize o with
    | none => rfl
    | some l => exact absurd (hLast n l (lands_iff.mpr ⟨hRunJ, hPlaceJ⟩)) (Nat.not_le.mpr hLater)

end Strided

namespace Canvas

variable {dtype : DType} (v : TileValues) (s : Strided Nat) (o : Nat)

theorem getLast?_landings {β : Type} (put : Nat × Nat → β) :
    ((List.range s.runs).filterMap fun i =>
      (placeOf (s.initialSkip + i * s.superstride) s.chunkSize o).map fun k => put (i, k)).getLast? =
        (s.lastLanding? o).map put := by
  rw [Strided.lastLanding?, ← List.getLast?_map, List.map_filterMap]
  simp only [Option.map_map]
  rfl

theorem settles_copyAll : Settles (fun c : Canvas dtype => c.buffer.get? o) (fun c => c.copyAll v s)
    ((s.lastLanding? o).map fun w => dtype.round (v.value (w.1 * s.substride + w.2))) := by
  rw [← getLast?_landings]
  exact Settles.foldl _ fun i _ => settles_copyNth v s o i

theorem settles_mark_copyAll : Settles (fun c : Canvas dtype => c.mark? o) (fun c => c.copyAll v s)
    ((s.lastLanding? o).map fun _ => 1) := by
  rw [← getLast?_landings]
  exact Settles.foldl _ fun i _ => settles_mark_copyNth v s o i

end Canvas

namespace TileDraft

def lastWrite? (t : TileDraft) (o : Nat) : Option (Strided Nat × Nat × Nat) :=
  match Layout.ofValue t.layout with
  | .ok l => (l.naturals.lastLanding? o).map (l.naturals, ·)
  | .error _ => none

variable {t : TileDraft} {s : Strided Nat} {o i k : Nat}

theorem lastWrite?_of_holds (h : Layout.Holds t.layout s) :
    t.lastWrite? o = (s.lastLanding? o).map (s, ·) := by
  obtain ⟨l, hLayout⟩ := Layout.exists_ofValue_iff.mpr ⟨s, h⟩
  obtain rfl := h.unique (Layout.holds_naturals hLayout)
  rw [lastWrite?, hLayout]

theorem holds_of_lastWrite? (h : t.lastWrite? o = some (s, i, k)) : Layout.Holds t.layout s := by
  unfold lastWrite? at h
  split at h
  · rename_i l hLayout
    obtain ⟨w, -, hEq⟩ := Option.map_eq_some_iff.mp h
    cases hEq
    exact Layout.holds_naturals hLayout
  · cases h

theorem lastWrite?_eq_some_iff : t.lastWrite? o = some (s, i, k) ↔
    Layout.Holds t.layout s ∧ s.Lands o i k ∧ ∀ j l, s.Lands o j l → j ≤ i := by
  rw [← Strided.lastLanding?_eq_some_iff]
  constructor
  · intro h
    have hHolds := holds_of_lastWrite? h
    rw [lastWrite?_of_holds hHolds] at h
    obtain ⟨w, hLast, hEq⟩ := Option.map_eq_some_iff.mp h
    cases hEq
    exact ⟨hHolds, hLast⟩
  · rintro ⟨hHolds, hLast⟩
    rw [lastWrite?_of_holds hHolds, hLast]
    rfl

theorem lastWrite?_eq_none_iff :
    t.lastWrite? o = none ↔ ∀ s, Layout.Holds t.layout s → ∀ i k, ¬ s.Lands o i k := by
  constructor
  · intro h s hHolds
    rw [lastWrite?_of_holds hHolds, Option.map_eq_none_iff] at h
    exact Strided.lastLanding?_eq_none_iff.mp h
  · intro h
    rw [Option.eq_none_iff_forall_ne_some]
    rintro ⟨s, i, k⟩ hWrite
    obtain ⟨hHolds, hLands, -⟩ := lastWrite?_eq_some_iff.mp hWrite
    exact h s hHolds i k hLands

end TileDraft

/-- Place `place` of run `run` of tile `tile`, all counted from zero. -/
structure Write where
  tile : Nat
  run : Nat
  place : Nat

namespace Write

/-- Writes come tile by tile, in a tile run by run, and in a run place by place. -/
def order (w : Write) : ℕ ×ₗ ℕ ×ₗ ℕ := toLex (w.tile, toLex (w.run, w.place))

/-- There is such a write, and it falls on offset `o`. -/
def Lands (tiles : List TileDraft) (o : Nat) (w : Write) : Prop :=
  ∃ t s, tiles[w.tile]? = some t ∧ Layout.Holds t.layout s ∧ s.Lands o w.run w.place

/-- No other write that falls on offset `o` comes later. -/
def IsLast (tiles : List TileDraft) (o : Nat) (w : Write) : Prop :=
  w.Lands tiles o ∧ ∀ w' : Write, w'.Lands tiles o → w'.order ≤ w.order

theorem order_le_iff {w w' : Write} : w.order ≤ w'.order ↔
    w.tile < w'.tile ∨ w.tile = w'.tile ∧ (w.run < w'.run ∨ w.run = w'.run ∧ w.place ≤ w'.place) := by
  rw [order, order, Prod.Lex.toLex_le_toLex, Prod.Lex.toLex_le_toLex]

variable {tiles : List TileDraft} {t : TileDraft} {s : Strided Nat} {o n i k : Nat} {w : Write}

theorem isLast_of_lastWrite? (hTile : tiles[n]? = some t) (hWrite : t.lastWrite? o = some (s, i, k))
    (hAfter : ∀ (m : Nat) (c : TileDraft), n < m → tiles[m]? = some c → c.lastWrite? o = none) :
    IsLast tiles o ⟨n, i, k⟩ := by
  obtain ⟨hHolds, hLands, hLast⟩ := TileDraft.lastWrite?_eq_some_iff.mp hWrite
  refine ⟨⟨t, s, hTile, hHolds, hLands⟩, ?_⟩
  rintro ⟨m, j, l⟩ ⟨c, s', hTile', hHolds', hLands'⟩
  rw [order_le_iff]
  dsimp only at hTile' hLands' ⊢
  rcases Nat.lt_trichotomy m n with hLess | rfl | hMore
  · exact .inl hLess
  · refine .inr ⟨rfl, ?_⟩
    obtain rfl : t = c := Option.some.inj (hTile.symm.trans hTile')
    obtain rfl := hHolds.unique hHolds'
    rcases Nat.lt_or_eq_of_le (hLast j l hLands') with hEarlier | rfl
    · exact .inl hEarlier
    · exact .inr ⟨rfl, (hLands'.place_unique hLands).le⟩
  · exact absurd hLands' (TileDraft.lastWrite?_eq_none_iff.mp (hAfter m c hMore hTile') s' hHolds' j l)

theorem IsLast.lastWrite? (h : w.IsLast tiles o) (hTile : tiles[w.tile]? = some t)
    (hHolds : Layout.Holds t.layout s) : t.lastWrite? o = some (s, w.run, w.place) := by
  obtain ⟨⟨t', s', hTile', hHolds', hLands⟩, hLast⟩ := h
  obtain rfl : t = t' := Option.some.inj (hTile.symm.trans hTile')
  obtain rfl := hHolds.unique hHolds'
  refine TileDraft.lastWrite?_eq_some_iff.mpr ⟨hHolds, hLands, fun j l hLands' => ?_⟩
  have hOrder := order_le_iff.mp (hLast ⟨w.tile, j, l⟩ ⟨t, s, hTile, hHolds, hLands'⟩)
  dsimp only at hOrder
  omega

theorem IsLast.lastWrite?_after (h : w.IsLast tiles o) {m : Nat} (hm : w.tile < m)
    (hTile : tiles[m]? = some t) : t.lastWrite? o = none := by
  rw [TileDraft.lastWrite?_eq_none_iff]
  intro s hHolds i k hLands
  have hOrder := order_le_iff.mp (h.2 ⟨m, i, k⟩ ⟨t, s, hTile, hHolds, hLands⟩)
  dsimp only at hOrder
  omega

theorem forall_lastWrite?_eq_none_iff :
    (∀ t ∈ tiles, t.lastWrite? o = none) ↔ ∀ w : Write, ¬ w.Lands tiles o := by
  constructor
  · rintro h w ⟨t, s, hTile, hHolds, hLands⟩
    have hNone := h t (List.mem_of_getElem? hTile)
    exact TileDraft.lastWrite?_eq_none_iff.mp hNone s hHolds _ _ hLands
  · intro h t hMem
    obtain ⟨n, hTile⟩ := List.mem_iff_getElem?.mp hMem
    rw [TileDraft.lastWrite?_eq_none_iff]
    exact fun s hHolds i k hLands => h ⟨n, i, k⟩ ⟨t, s, hTile, hHolds, hLands⟩

theorem exists_isLast (h : w.Lands tiles o) : ∃ w' : Write, w'.IsLast tiles o := by
  cases hLast : (tiles.filterMap (·.lastWrite? o)).getLast? with
  | none =>
    rw [getLast?_filterMap_eq_none_iff, forall_lastWrite?_eq_none_iff] at hLast
    exact absurd h (hLast w)
  | some found =>
    obtain ⟨s, i, k⟩ := found
    obtain ⟨n, t, hTile, hWrite, hAfter⟩ := getLast?_filterMap_eq_some_iff.mp hLast
    exact ⟨_, isLast_of_lastWrite? hTile hWrite hAfter⟩

theorem IsLast.getLast?_filterMap {β : Type} (put : TileDraft → Strided Nat × Nat × Nat → β)
    (h : w.IsLast tiles o) (hTile : tiles[w.tile]? = some t) (hHolds : Layout.Holds t.layout s) :
    (tiles.filterMap fun t => (t.lastWrite? o).map (put t)).getLast? = some (put t (s, w.run, w.place)) := by
  rw [getLast?_filterMap_eq_some_iff]
  refine ⟨w.tile, t, hTile, by rw [h.lastWrite? hTile hHolds]; rfl, fun m c hm hTile' => ?_⟩
  rw [h.lastWrite?_after hm hTile']
  rfl

theorem getLast?_filterMap_of_not_lands {β : Type} (put : TileDraft → Strided Nat × Nat × Nat → β)
    (h : ∀ w : Write, ¬ w.Lands tiles o) :
    (tiles.filterMap fun t => (t.lastWrite? o).map (put t)).getLast? = none := by
  rw [getLast?_filterMap_eq_none_iff]
  intro t hMem
  rw [forall_lastWrite?_eq_none_iff.mpr h t hMem]
  rfl

end Write

namespace Canvas

variable {dtype : DType}

def copyTile (c : Canvas dtype) (t : TileDraft) : Canvas dtype :=
  match Layout.ofValue t.layout with
  | .ok l => c.copyAll t.row l.naturals
  | .error _ => c

def stored (dtype : DType) (t : TileDraft) (w : Strided Nat × Nat × Nat) : Number :=
  dtype.round (t.row.value (w.2.1 * w.1.substride + w.2.2))

theorem copyTile_of_holds {t : TileDraft} {s : Strided Nat} (h : Layout.Holds t.layout s)
    (c : Canvas dtype) : c.copyTile t = c.copyAll t.row s := by
  obtain ⟨l, hLayout⟩ := Layout.exists_ofValue_iff.mpr ⟨s, h⟩
  obtain rfl := h.unique (Layout.holds_naturals hLayout)
  rw [copyTile, hLayout]

theorem settles_copyTile (t : TileDraft) (o : Nat) :
    Settles (fun c : Canvas dtype => c.buffer.get? o) (fun c => c.copyTile t)
      ((t.lastWrite? o).map (stored dtype t)) := by
  unfold copyTile TileDraft.lastWrite?
  cases Layout.ofValue t.layout with
  | ok l =>
    rw [Option.map_map]
    exact settles_copyAll t.row l.naturals o
  | error e => exact .unchanged _

theorem settles_mark_copyTile (t : TileDraft) (o : Nat) :
    Settles (fun c : Canvas dtype => c.mark? o) (fun c => c.copyTile t)
      ((t.lastWrite? o).map fun _ => 1) := by
  unfold copyTile TileDraft.lastWrite?
  cases Layout.ofValue t.layout with
  | ok l =>
    rw [Option.map_map]
    exact settles_mark_copyAll t.row l.naturals o
  | error e => exact .unchanged _

def copyTiles (c : Canvas dtype) (tiles : List TileDraft) : Canvas dtype := tiles.foldl copyTile c

theorem settles_copyTiles (tiles : List TileDraft) (o : Nat) :
    Settles (fun c : Canvas dtype => c.buffer.get? o) (fun c => c.copyTiles tiles)
      (tiles.filterMap fun t => (t.lastWrite? o).map (stored dtype t)).getLast? :=
  Settles.foldl tiles fun t _ => settles_copyTile t o

theorem settles_mark_copyTiles (tiles : List TileDraft) (o : Nat) :
    Settles (fun c : Canvas dtype => c.mark? o) (fun c => c.copyTiles tiles)
      (tiles.filterMap fun t => (t.lastWrite? o).map fun _ => 1).getLast? :=
  Settles.foldl tiles fun t _ => settles_mark_copyTile t o

theorem buffer_copyTiles {c d : Canvas dtype} (tiles : List TileDraft) (h : c.buffer = d.buffer) :
    (c.copyTiles tiles).buffer = (d.copyTiles tiles).buffer := by
  refine Buffer.ext fun o => ?_
  have hSettles := @settles_copyTiles dtype tiles o
  calc
    (c.copyTiles tiles).buffer.get? o = (c.buffer.get? o).map _ := hSettles c
    _ = (d.buffer.get? o).map _ := by rw [h]
    _ = (d.copyTiles tiles).buffer.get? o := (hSettles d).symm

def markCount? (c : Canvas dtype) : Option Nat := c.marks.map Array.size

theorem markCount?_copyTiles (tiles : List TileDraft) (c : Canvas dtype) :
    (c.copyTiles tiles).markCount? = c.markCount? := by
  have hRun (v : TileValues) (s : Strided Nat) (c : Canvas dtype) (i : Nat) :
      (c.copyNth v s i).markCount? = c.markCount? := by
    unfold markCount? copyNth
    cases c.marks with
    | none => rfl
    | some marks => exact congrArg some (size_markFrom _ _ marks)
  have hTile (c : Canvas dtype) (t : TileDraft) : (c.copyTile t).markCount? = c.markCount? := by
    unfold copyTile
    split
    · exact foldl_view (hRun _ _) _ c
    · rfl
  exact foldl_view hTile tiles c

variable {tiles : List TileDraft} {o : Nat} {c : Canvas dtype}

theorem mark?_copyTiles_of_lands {w : Write} {m : UInt8} (hInside : c.mark? o = some m)
    (h : w.Lands tiles o) : (c.copyTiles tiles).mark? o = some 1 := by
  obtain ⟨w', hLast⟩ := Write.exists_isLast h
  obtain ⟨t, s, hTile, hHolds, -⟩ := hLast.1
  have hSettles := @settles_mark_copyTiles dtype tiles o
  rw [hLast.getLast?_filterMap (fun _ _ => 1) hTile hHolds] at hSettles
  exact hSettles.view_eq_some hInside

theorem mark?_copyTiles_of_not_lands (h : ∀ w : Write, ¬ w.Lands tiles o) :
    (c.copyTiles tiles).mark? o = c.mark? o := by
  have hSettles := @settles_mark_copyTiles dtype tiles o
  rw [Write.getLast?_filterMap_of_not_lands (fun _ _ => 1) h] at hSettles
  exact hSettles.view_eq c

theorem get?_copyTiles_of_isLast {w : Write} {t : TileDraft} {s : Strided Nat} {x : Number}
    (hInside : c.buffer.get? o = some x) (hLast : w.IsLast tiles o) (hTile : tiles[w.tile]? = some t)
    (hHolds : Layout.Holds t.layout s) :
    (c.copyTiles tiles).buffer.get? o = some (stored dtype t (s, w.run, w.place)) := by
  have hSettles := @settles_copyTiles dtype tiles o
  rw [hLast.getLast?_filterMap (stored dtype) hTile hHolds] at hSettles
  exact hSettles.view_eq_some hInside

theorem get?_copyTiles_of_not_lands (h : ∀ w : Write, ¬ w.Lands tiles o) :
    (c.copyTiles tiles).buffer.get? o = c.buffer.get? o := by
  have hSettles := @settles_copyTiles dtype tiles o
  rw [Write.getLast?_filterMap_of_not_lands (stored dtype) h] at hSettles
  exact hSettles.view_eq c

end Canvas

namespace Assembly

open Traversal

variable {tiles : List TileDraft} {plans : List Plan} {size : Nat} {dtype : DType}

def PlannedAs (size : Nat) (t : TileDraft) (p : Plan) : Prop :=
  ∃ s, Layout.Holds t.layout s ∧ p.Performs s t.row ∧ s.Fits size t.row.count

theorem planAll_forall₂ (h : planAll tiles (Number.ofNat size) = .ok plans) (hn : size ≤ maxSafe)
    (hCount : ∀ t ∈ tiles, t.Countable) : List.Forall₂ (PlannedAs size) tiles plans := by
  obtain ⟨hLength, hPlans⟩ := mapM_zipIdx_eq_ok_iff.mp h
  rw [List.forall₂_iff_get]
  refine ⟨hLength.symm, fun n hTile hPlan => ?_⟩
  refine TileDraft.plan_eq_ok (hPlans n _ _ (List.getElem?_eq_getElem hTile) (List.getElem?_eq_getElem hPlan))
    (Number.index?_ofNat (Number.le_exactLimit hn)) hn (hCount _ (List.get_mem tiles ⟨n, hTile⟩))

theorem apply_eq_copyTile {t : TileDraft} {p : Plan} (h : PlannedAs size t p) (hn : size ≤ maxSafe)
    (hCount : t.row.count ≤ maxSafe) (c : Canvas dtype) : c.apply p = c.copyTile t := by
  obtain ⟨s, hHolds, hPerforms, hFits⟩ := h
  obtain ⟨x, -, -, hRuns⟩ := hHolds .iterations
  rw [Canvas.copyTile_of_holds hHolds]
  exact Plan.apply_eq_copyAll hPerforms hFits hn hCount hRuns c

theorem applyAll_eq_copyTiles (h : List.Forall₂ (PlannedAs size) tiles plans) (hn : size ≤ maxSafe)
    (hCount : ∀ t ∈ tiles, t.row.count ≤ maxSafe) (c : Canvas dtype) :
    c.applyAll plans = c.copyTiles tiles := by
  induction h generalizing c with
  | nil => rfl
  | @cons t p tiles plans hPlan hRest ih =>
    have hTail := ih (fun t' hMem => hCount t' (List.mem_cons_of_mem t hMem)) (c.copyTile t)
    rw [Canvas.applyAll, List.foldl_cons, apply_eq_copyTile hPlan hn (hCount t List.mem_cons_self)]
    exact hTail

end Assembly

end CubeSlice
