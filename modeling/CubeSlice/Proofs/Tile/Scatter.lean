import CubeSlice.Proofs.Number.Exact
import CubeSlice.Proofs.Tile.Overwrite
import CubeSlice.Proofs.Tile.Plan
import CubeSlice.Tile.Scatter

/-!
# What a plan writes

A plan whose layout describes runs that stay inside does to a canvas what these runs do one after the
other in exact integers: `Plan.apply_eq_foldl`. Its cursors advance in rounded arithmetic, and where all
runs land on one range only the last is executed; neither can be seen. Strided copies are such runs:
`Plan.apply_eq_copyAll`.
-/

namespace CubeSlice

variable {dtype : DType}

def placeOf (target count o : Nat) : Option Nat :=
  if target ≤ o ∧ o < target + count then some (o - target) else none

theorem placeOf_eq_some_iff {target count o k : Nat} :
    placeOf target count o = some k ↔ k < count ∧ target + k = o := by
  unfold placeOf
  split
  · rw [Option.some.injEq]
    omega
  · simp only [reduceCtorEq, false_iff]
    omega

theorem placeOf_zero (target o : Nat) : placeOf target 0 o = none := by
  rw [placeOf, if_neg (by omega)]

theorem placeOf_succ (target count o : Nat) :
    placeOf target (count + 1) o =
      ((placeOf (target + 1) count o).map (· + 1)).or (if target = o then some 0 else none) := by
  cases hRest : placeOf (target + 1) count o with
  | some k =>
    rw [placeOf_eq_some_iff] at hRest
    have hPlace : k + 1 < count + 1 ∧ target + (k + 1) = o := by omega
    exact placeOf_eq_some_iff.mpr hPlace
  | none =>
    have hOut : ¬ (target + 1 ≤ o ∧ o < target + 1 + count) := by
      intro h
      rw [placeOf, if_pos h] at hRest
      cases hRest
    rw [Option.map_none, Option.none_or]
    split
    · exact placeOf_eq_some_iff.mpr (by omega)
    · rw [placeOf, if_neg (by omega)]

/-- Writing offset after offset, `put k` the offset `target + k`, puts into view what belongs to the
place of the offset that is looked at. -/
theorem Settles.fill {σ β : Type} {view : σ → Option β} {target o : Nat} {put : Nat → σ → σ}
    {fill : Nat → Nat → σ → σ} {w : Nat → β} (hZero : ∀ k s, fill k 0 s = s)
    (hSucc : ∀ k n s, fill k (n + 1) s = fill (k + 1) n (put k s))
    (hPut : ∀ k, Settles view (put k) (if target + k = o then some (w k) else none)) (k n : Nat) :
    Settles view (fill k n) ((placeOf (target + k) n o).map fun j => w (k + j)) := by
  induction n generalizing k with
  | zero =>
    rw [placeOf_zero]
    intro s
    rw [hZero]
    exact Settles.unchanged view s
  | succ n ih =>
    have hStep := (hPut k).comp (ih (k + 1))
    have hWrite : ((placeOf (target + k) (n + 1) o).map fun j => w (k + j)) =
        ((placeOf (target + (k + 1)) n o).map fun j => w (k + 1 + j)).or
          (if target + k = o then some (w k) else none) := by
      rw [placeOf_succ, Nat.add_assoc target k 1]
      cases placeOf (target + (k + 1)) n o with
      | none =>
        rw [Option.map_none, Option.map_none, Option.none_or, Option.none_or]
        split <;> rfl
      | some j =>
        rw [Option.map_some, Option.some_or, Option.map_some, Option.map_some, Option.some_or,
          Nat.add_comm j 1, Nat.add_assoc]
    intro s
    rw [hSucc, hWrite]
    exact hStep s

theorem settles_setIfInBounds {α : Type} (o i : Nat) (x : α) :
    Settles (fun cells : Array α => cells[o]?) (fun cells => cells.setIfInBounds i x)
      (if i = o then some x else none) := by
  intro cells
  simp only [Array.getElem?_setIfInBounds]
  split
  · rename_i hEq
    subst hEq
    split
    · rename_i hIn
      simp [hIn]
    · rename_i hOut
      simp [Array.getElem?_eq_none (Nat.not_lt.mp hOut)]
  · cases cells[o]? <;> rfl

theorem Buffer.ext {b b' : Buffer dtype} (h : ∀ o : Nat, b.get? o = b'.get? o) : b = b' := by
  obtain ⟨cells, hRounded⟩ := b
  obtain ⟨cells', hRounded'⟩ := b'
  obtain rfl : cells = cells' := Array.ext_getElem? h
  rfl

theorem Buffer.settles_copyFrom (values : TileValues) (source target count o : Nat) :
    Settles (fun b : Buffer dtype => b.get? o) (fun b => b.copyFrom values source target count)
      ((placeOf target count o).map fun k => dtype.round (values.value (source + k))) := by
  have hFill := @Settles.fill _ _ (fun b : Buffer dtype => b.get? o) target o
    (fun k b => b.set (target + k) (values.value (source + k)))
    (fun k n b => b.copyFrom values (source + k) (target + k) n)
    (fun k => dtype.round (values.value (source + k)))
    (fun _ _ => rfl) (fun _ _ _ => rfl)
    (fun k b => settles_setIfInBounds o (target + k) _ b.cells) 0 count
  simpa using hFill

theorem settles_markFrom (target count o : Nat) :
    Settles (fun marks : Array UInt8 => marks[o]?) (fun marks => markFrom target count marks)
      ((placeOf target count o).map fun _ => 1) :=
  @Settles.fill _ _ (fun marks : Array UInt8 => marks[o]?) target o
    (fun k marks => marks.setIfInBounds (target + k) 1)
    (fun k n marks => markFrom (target + k) n marks) (fun _ => 1)
    (fun _ _ => rfl) (fun _ _ _ => rfl)
    (fun k marks => settles_setIfInBounds o (target + k) 1 marks) 0 count

structure Stretch where
  source : Nat
  target : Nat
  length : Nat
  deriving Inhabited

theorem Strided.runs_le (s : Strided Nat) : s.runs ≤ s.iterations := by
  unfold Strided.runs
  split <;> omega

def Strided.stretch (s : Strided Nat) (i : Nat) : Stretch :=
  ⟨i * s.substride, s.initialSkip + i * s.superstride, s.chunkSize⟩

def Stretch.Inside (e : Stretch) (size count : Nat) : Prop :=
  e.target + e.length ≤ size ∧ e.source + e.length ≤ count

namespace Canvas

def copyStretch (v : TileValues) (c : Canvas dtype) (e : Stretch) : Canvas dtype where
  buffer := c.buffer.copyFrom v e.source e.target e.length
  marks := c.marks.map (markFrom e.target e.length)

def copyNth (v : TileValues) (s : Strided Nat) (c : Canvas dtype) (i : Nat) : Canvas dtype where
  buffer := c.buffer.copyFrom v (i * s.substride) (s.initialSkip + i * s.superstride) s.chunkSize
  marks := c.marks.map (markFrom (s.initialSkip + i * s.superstride) s.chunkSize)

def copyAll (v : TileValues) (s : Strided Nat) (c : Canvas dtype) : Canvas dtype :=
  (List.range s.runs).foldl (copyNth v s) c

def mark? (c : Canvas dtype) (o : Nat) : Option UInt8 := c.marks.bind (·[o]?)

theorem ext {c d : Canvas dtype} (hBuffer : c.buffer = d.buffer) (hMarks : c.marks = d.marks) : c = d := by
  obtain ⟨buffer, marks⟩ := c
  obtain ⟨buffer', marks'⟩ := d
  obtain rfl : buffer = buffer' := hBuffer
  obtain rfl : marks = marks' := hMarks
  rfl

variable (v : TileValues) (s : Strided Nat) (e : Stretch) (o i : Nat)

theorem settles_copyStretch : Settles (fun c : Canvas dtype => c.buffer.get? o) (fun c => c.copyStretch v e)
    ((placeOf e.target e.length o).map fun k => dtype.round (v.value (e.source + k))) := fun c =>
  Buffer.settles_copyFrom v e.source e.target e.length o c.buffer

theorem settles_mark_copyStretch : Settles (fun c : Canvas dtype => c.mark? o) (fun c => c.copyStretch v e)
    ((placeOf e.target e.length o).map fun _ => 1) := by
  intro c
  cases hMarks : c.marks with
  | none => simp [mark?, copyStretch, hMarks]
  | some marks =>
    simp only [mark?, copyStretch, hMarks, Option.map_some, Option.bind_some]
    exact settles_markFrom _ _ _ marks

theorem settles_copyNth : Settles (fun c : Canvas dtype => c.buffer.get? o) (fun c => c.copyNth v s i)
    ((placeOf (s.initialSkip + i * s.superstride) s.chunkSize o).map fun k =>
      dtype.round (v.value (i * s.substride + k))) := settles_copyStretch v (s.stretch i) o

theorem settles_mark_copyNth : Settles (fun c : Canvas dtype => c.mark? o) (fun c => c.copyNth v s i)
    ((placeOf (s.initialSkip + i * s.superstride) s.chunkSize o).map fun _ => 1) :=
  settles_mark_copyStretch v (s.stretch i) o

variable {e}

/-- A run leaves nothing of another one that lands on the same range. -/
theorem copyStretch_copyStretch {e' : Stretch} (hTarget : e'.target = e.target) (hLength : e'.length = e.length)
    (c : Canvas dtype) : (c.copyStretch v e').copyStretch v e = c.copyStretch v e := by
  have hOr {β : Type} (o : Nat) (w w' : Nat → β) :
      ((placeOf e.target e.length o).map w').or ((placeOf e'.target e'.length o).map w) =
        (placeOf e.target e.length o).map w' := by
    rw [hTarget, hLength]
    cases placeOf e.target e.length o <;> rfl
  refine ext (Buffer.ext fun o => ?_) ?_
  · exact (settles_copyStretch v e' o).absorbs (settles_copyStretch v e o) (hOr o _ _) c
  · simp only [copyStretch, Option.map_map]
    congr 1
    funext marks
    refine Array.ext_getElem? fun o => ?_
    exact (settles_markFrom _ _ o).absorbs (settles_markFrom _ _ o) (hOr o _ _) marks

theorem foldl_copyStretch_copyStretch {α : Type} (f : α → Stretch) (l : List α)
    (h : ∀ a ∈ l, (f a).target = e.target ∧ (f a).length = e.length) (c : Canvas dtype) :
    (l.foldl (fun c a => c.copyStretch v (f a)) c).copyStretch v e = c.copyStretch v e := by
  induction l generalizing c with
  | nil => rfl
  | cons a l ih =>
    obtain ⟨hTarget, hLength⟩ := h a List.mem_cons_self
    rw [List.foldl_cons, ih (fun b hb => h b (List.mem_cons_of_mem a hb)),
      copyStretch_copyStretch v hTarget hLength]

end Canvas

open Number

structure Run.IsAt (r : Run) (e : Stretch) : Prop where
  source : r.source.index? = some e.source
  target : r.target.index? = some e.target
  length : r.length.index? = some e.length

theorem Run.IsAt.copyRun_eq {r : Run} {e : Stretch} (h : r.IsAt e) (hStop : e.target + e.length ≤ exactLimit)
    (v : TileValues) (c : Canvas dtype) : c.copyRun v r = c.copyStretch v e := by
  have hEnd : (r.target + r.length).index? = some (e.target + e.length) := index?_add h.target h.length hStop
  have hBuffer : c.buffer.copyRun v r = c.buffer.copyFrom v e.source e.target e.length := by
    simp only [Buffer.copyRun, h.source, h.target, naturalsBelow_of_index? h.length]
  have hMark : markRun r = markFrom e.target e.length := by
    funext marks
    have hOffset (n : Nat) : offsetIn marks.size (n : Int) = n := by
      rw [offsetIn, if_neg (by omega), Int.toNat_natCast]
    rw [markRun, whole_of_index? h.target, whole_of_index? hEnd]
    simp only [hOffset, Nat.add_sub_cancel_left]
  rw [Canvas.copyRun, Canvas.copyStretch, hBuffer, hMark]

namespace Plan

/-- What the layout of a plan says of run `i`, in exact arithmetic. Its strides may be of either sign, and
where they are multiplied by zero they need not be integers. -/
structure Describes (p : Plan) (i : Nat) (e : Stretch) : Prop where
  source : ∃ step : ℚ, p.layout.substride.value? = some step ∧ i * step = e.source
  target : ∃ start step : ℚ, p.layout.initialSkip.value? = some start ∧ p.layout.superstride.value? = some step ∧
    start + i * step = e.target
  length : p.layout.chunkSize.value? = some (e.length : ℚ)

variable {p : Plan} {s : Strided Nat} {v : TileValues} {r : Run} {e e' : Stretch} {x : Number}
  {i n size count : Nat}

theorem Describes.length_eq (h : p.Describes i e) {j : Nat} (h' : p.Describes j e') : e'.length = e.length := by
  have hLength := Option.some.inj (h'.length.symm.trans h.length)
  exact_mod_cast hLength

theorem Describes.target_eq (h : p.Describes i e) {j : Nat} (h' : p.Describes j e')
    (hZero : p.layout.superstride.value? = some 0) : e'.target = e.target := by
  obtain ⟨start, step, hStart, hStep, hTarget⟩ := h.target
  obtain ⟨start', step', hStart', hStep', hTarget'⟩ := h'.target
  obtain rfl := Option.some.inj (hStart.symm.trans hStart')
  obtain rfl := Option.some.inj (hZero.symm.trans hStep)
  obtain rfl := Option.some.inj (hZero.symm.trans hStep')
  rw [mul_zero] at hTarget hTarget'
  exact_mod_cast hTarget'.symm.trans hTarget

theorem Describes.isAt_run (h : p.Describes i e) (hFirst : p.Describes 0 e') (hx : x.index? = some i)
    (hSource : e.source ≤ exactLimit) (hTarget : e.target ≤ exactLimit) (hStart : e'.target ≤ exactLimit) :
    (p.run x).IsAt e := by
  have hx := value?_natCast_iff.mpr hx
  obtain ⟨step, hStep, hSourceEq⟩ := h.source
  obtain ⟨start, advance, hStartValue, hAdvance, hTargetEq⟩ := h.target
  obtain ⟨start', advance', hStartValue', -, hFirstEq⟩ := hFirst.target
  obtain rfl := Option.some.inj (hStartValue.symm.trans hStartValue')
  rw [Nat.cast_zero, zero_mul, add_zero] at hFirstEq
  have hMoved : i * advance = ((e.target - e'.target : Int) : ℚ) := by
    push_cast
    rw [← hTargetEq, ← hFirstEq, add_sub_cancel_left]
  have hMovedValue := value?_intCast_iff.mpr (toInt?_mul hx hAdvance hMoved (by omega))
  refine ⟨?_, ?_, value?_natCast_iff.mp h.length⟩
  · exact index?_eq_some_iff_toInt?.mpr (toInt?_mul hx hStep (z := e.source) hSourceEq (by omega))
  · refine index?_eq_some_iff_toInt?.mpr (toInt?_add hStartValue hMovedValue (z := e.target) ?_ (by omega))
    rw [← hMoved, hTargetEq, Int.cast_natCast]

theorem Describes.isAt_next (h : p.Describes i e) (h' : p.Describes (i + 1) e') (hr : r.IsAt e)
    (hSource : e'.source ≤ exactLimit) (hTarget : e'.target ≤ exactLimit) : (p.next r).IsAt e' := by
  obtain ⟨step, hStep, hSourceEq⟩ := h.source
  obtain ⟨step', hStep', hSourceEq'⟩ := h'.source
  obtain ⟨start, advance, hStart, hAdvance, hTargetEq⟩ := h.target
  obtain ⟨start', advance', hStart', hAdvance', hTargetEq'⟩ := h'.target
  obtain rfl := Option.some.inj (hStep.symm.trans hStep')
  obtain rfl := Option.some.inj (hStart.symm.trans hStart')
  obtain rfl := Option.some.inj (hAdvance.symm.trans hAdvance')
  rw [Nat.cast_succ, add_one_mul] at hSourceEq' hTargetEq'
  refine ⟨?_, ?_, hr.length.trans (congrArg some (h.length_eq h').symm)⟩
  · refine index?_eq_some_iff_toInt?.mpr
      (toInt?_add (value?_natCast_iff.mpr hr.source) hStep (z := e'.source) ?_ (by omega))
    rw [← hSourceEq, hSourceEq', Int.cast_natCast]
  · refine index?_eq_some_iff_toInt?.mpr
      (toInt?_add (value?_natCast_iff.mpr hr.target) hAdvance (z := e'.target) ?_ (by omega))
    rw [← hTargetEq, add_assoc, hTargetEq', Int.cast_natCast]

theorem execute_eq_foldl (f : Nat → Stretch) (hSize : size ≤ maxSafe) (hCount : count ≤ maxSafe) (k : Nat)
    (hr : r.IsAt (f i)) (h : ∀ j, i ≤ j → j < i + k → p.Describes j (f j) ∧ (f j).Inside size count)
    (c : Canvas dtype) :
    c.execute p r k = (List.range' i k).foldl (fun c j => c.copyStretch p.values (f j)) c := by
  have hLimit := le_exactLimit hSize
  have hLimit' := le_exactLimit hCount
  induction k generalizing i r c with
  | zero => rfl
  | succ k ih =>
    obtain ⟨hHere, hTarget, hSource⟩ := h i (Nat.le_refl i) (by omega)
    rw [Canvas.execute, hr.copyRun_eq (by omega), List.range'_succ, List.foldl_cons]
    cases k with
    | zero => rfl
    | succ k =>
      obtain ⟨hNext, hTarget', hSource'⟩ := h (i + 1) (by omega) (by omega)
      exact ih (hHere.isAt_next hNext hr (by omega) (by omega)) (fun j hj hj' => h j (by omega) (by omega)) _

theorem index?_lastRun (hRuns : p.runCount.index? = some n) (hPos : 0 < n) (hn : n ≤ exactLimit) :
    p.lastRun.index? = some (n - 1) := by
  have hLast : (p.runCount - Number.ofNat 1).index? = some (n - 1) :=
    index?_sub hRuns (index?_ofNat (by decide)) hPos hn
  unfold lastRun
  dsimp only
  rw [if_neg]
  · exact hLast
  · rw [lt_iff hLast index?_zero]
    exact Nat.not_lt_zero _

theorem visibleCount_eq_zero (hRuns : p.runCount.index? = some 0) : p.visibleCount = 0 := by
  have hLast : p.lastRun = Number.zero :=
    if_pos (sub_lt_zero hRuns (index?_ofNat (by decide)) Nat.one_pos (by decide))
  have hBelow : ¬ p.lastRun.lt p.runCount = true := by
    rw [hLast, lt_iff index?_zero hRuns]
    exact Nat.lt_irrefl 0
  rw [visibleCount, if_neg hBelow, naturalsBelow_of_index? hRuns, ite_self]

/-- A plan does what the runs that it describes do one after the other in exact integers. -/
theorem apply_eq_foldl (f : Nat → Stretch) (hRuns : p.runCount.index? = some n) (hn : n ≤ exactLimit)
    (hSize : size ≤ maxSafe) (hCount : count ≤ maxSafe)
    (h : ∀ j < n, p.Describes j (f j) ∧ (f j).Inside size count) (c : Canvas dtype) :
    c.apply p = (List.range n).foldl (fun c j => c.copyStretch p.values (f j)) c := by
  have hLimit := le_exactLimit hSize
  have hLimit' := le_exactLimit hCount
  rcases Nat.eq_zero_or_pos n with rfl | hPos
  · rw [Canvas.apply, visibleCount_eq_zero hRuns]
    rfl
  · have hCursor {x : Number} {j : Nat} (hx : x.index? = some j) (hj : j < n) : (p.run x).IsAt (f j) := by
      obtain ⟨hFirst, hStart, -⟩ := h 0 hPos
      obtain ⟨hHere, hTarget, hSource⟩ := h j hj
      exact hHere.isAt_run hFirst hx (by omega) (by omega) (by omega)
    rw [Canvas.apply]
    by_cases hZero : p.layout.superstride.isZero = true
    · have hLast := index?_lastRun hRuns hPos hn
      have hBelow : p.lastRun.lt p.runCount = true := (lt_iff hLast hRuns).mpr (by omega)
      obtain ⟨hEnd, hInside⟩ := h (n - 1) (by omega)
      have hOne := execute_eq_foldl f hSize hCount 1 (hCursor hLast (by omega))
        (fun j hj hj' => h j (by omega)) c
      obtain ⟨m, rfl⟩ : ∃ m, n = m + 1 := ⟨n - 1, by omega⟩
      rw [Nat.add_sub_cancel] at hEnd hOne
      rw [firstVisible, if_pos hZero, visibleCount, if_pos hZero, if_pos hBelow, hOne, List.range_succ,
        List.foldl_append, List.foldl_cons, List.foldl_nil, Canvas.foldl_copyStretch_copyStretch]
      · rfl
      · intro j hj
        obtain ⟨hHere, -⟩ := h j (Nat.lt_succ_of_lt (List.mem_range.mp hj))
        exact ⟨hEnd.target_eq hHere (value?_of_isZero hZero), hEnd.length_eq hHere⟩
    · rw [firstVisible, if_neg hZero, visibleCount, if_neg hZero, naturalsBelow_of_index? hRuns,
        List.range_eq_range']
      exact execute_eq_foldl f hSize hCount n (hCursor index?_zero hPos) (fun j _ hj => h j (by omega)) c

theorem Performs.describes (hp : p.Performs s v) (i : Nat) : p.Describes i (s.stretch i) where
  source := ⟨_, value?_natCast_iff.mpr (hp.layout .substride), (Nat.cast_mul i s.substride).symm⟩
  target := by
    refine ⟨_, _, value?_natCast_iff.mpr (hp.layout .initialSkip), value?_natCast_iff.mpr (hp.layout .superstride), ?_⟩
    exact (congrArg _ (Nat.cast_mul i s.superstride).symm).trans (Nat.cast_add _ _).symm
  length := value?_natCast_iff.mpr (hp.layout .chunkSize)

theorem Performs.describes_inside (hp : p.Performs s v) (hFits : s.Fits size v.count) (i : Nat) (hi : i < s.runs) :
    p.Describes i (s.stretch i) ∧ (s.stretch i).Inside size v.count := by
  rw [Strided.runs] at hi
  split at hi
  · exact absurd hi (Nat.not_lt_zero i)
  · rename_i hChunk
    exact ⟨hp.describes i, hFits (Nat.zero_lt_of_lt hi) (Nat.pos_of_ne_zero hChunk) i hi⟩

theorem apply_eq_copyAll (hp : p.Performs s v) (hFits : s.Fits size v.count) (hn : size ≤ maxSafe)
    (hCount : v.count ≤ maxSafe) (hRuns : s.iterations ≤ maxSafe) (c : Canvas dtype) :
    c.apply p = c.copyAll v s := by
  have hLimit := le_exactLimit (Nat.le_trans s.runs_le hRuns)
  rw [apply_eq_foldl s.stretch hp.runCount hLimit hn hCount (hp.describes_inside hFits), hp.values]
  rfl

end Plan

end CubeSlice
