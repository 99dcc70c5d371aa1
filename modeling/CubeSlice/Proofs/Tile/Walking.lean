import CubeSlice.Proofs.Number.Limit
import CubeSlice.Proofs.Tile.Scatter

/-!
# Runs one by one

What applying plans stands for: `Canvas.Walks` takes the plans in order, each run that a plan yields in order, and each
value of a run in order. `Canvas.applyAll_walked` says that nothing else comes about as long as the runs stay inside.
A plan of more than `2 ^ 53` runs yields runs without end, because the number of a run stops growing there. From
`2 ^ 54` runs on the number of the last run is rounded to the count of all runs, and nothing at all is copied.
-/

namespace CubeSlice

variable {dtype : DType}

def Run.Covers (r : Run) (o : Nat) : Prop :=
  r.target.toNat ≤ o ∧ o < r.target.toNat + r.length.toNat

namespace Plan

/-- The plan yields these runs and no more. -/
def Yields (p : Plan) (rs : List Run) : Prop := p.runs (rs.length + 1) = rs

/-- A plan of `n` runs, each of which stays inside its values and inside `size` elements. No row of values is
longer than a safe integer can count. -/
structure StaysInside (p : Plan) (n size : Nat) : Prop where
  runCount : p.runCount.index? = some n
  countable : p.values.count ≤ maxSafe
  runs : ∀ i < n, ∃ e, p.Describes i e ∧ e.Inside size p.values.count

end Plan

namespace Canvas

/-- Copies a run value after value and marks offset after offset what it covers. -/
def transcribe (v : TileValues) (c : Canvas dtype) (r : Run) : Canvas dtype where
  buffer := (List.range r.length.toNat).foldl
    (fun b k => b.set (r.target.toNat + k) (v.value (r.source.toNat + k))) c.buffer
  marks := c.marks.map fun marks =>
    (List.range r.length.toNat).foldl (fun marks k => marks.setIfInBounds (r.target.toNat + k) 1) marks

/-- Taking plan after plan, and in each of them run after run until there are no more, one canvas becomes another. -/
inductive Walks : Canvas dtype → List Plan → Canvas dtype → Prop
  | nil (c : Canvas dtype) : Walks c [] c
  | cons {c d : Canvas dtype} {p : Plan} {plans : List Plan} {rs : List Run} (hYields : p.Yields rs)
    (hRest : Walks (rs.foldl (transcribe p.values) c) plans d) : Walks c (p :: plans) d

structure SameAt (o : Nat) (c d : Canvas dtype) : Prop where
  value : c.buffer.get? o = d.buffer.get? o
  mark : c.mark? o = d.mark? o

theorem SameAt.trans {o : Nat} {c d e : Canvas dtype} (h : SameAt o c d) (h' : SameAt o d e) : SameAt o c e :=
  ⟨h.value.trans h'.value, h.mark.trans h'.mark⟩

end Canvas

theorem fill_eq_foldl {σ : Type} {put : Nat → σ → σ} {fill : Nat → Nat → σ → σ} (hZero : ∀ k s, fill k 0 s = s)
    (hSucc : ∀ k n s, fill k (n + 1) s = fill (k + 1) n (put k s)) (k n : Nat) (s : σ) :
    fill k n s = (List.range n).foldl (fun s j => put (k + j) s) s := by
  induction n generalizing k s with
  | zero => exact hZero k s
  | succ n ih =>
    rw [hSucc, ih, List.range_succ_eq_map, List.foldl_cons, List.foldl_map]
    simp only [Nat.add_zero, Nat.succ_eq_add_one, Nat.add_assoc, Nat.add_comm 1]

theorem Buffer.copyFrom_eq_foldl (v : TileValues) (source target n : Nat) (b : Buffer dtype) :
    b.copyFrom v source target n =
      (List.range n).foldl (fun b k => b.set (target + k) (v.value (source + k))) b := by
  have hLoop := @fill_eq_foldl _ (fun k (b : Buffer dtype) => b.set (target + k) (v.value (source + k)))
    (fun k n b => b.copyFrom v (source + k) (target + k) n) (fun _ _ => rfl) (fun _ _ _ => rfl) 0 n b
  simpa only [Nat.add_zero, Nat.zero_add] using hLoop

theorem markFrom_eq_foldl (target n : Nat) (marks : Array UInt8) :
    markFrom target n marks = (List.range n).foldl (fun marks k => marks.setIfInBounds (target + k) 1) marks := by
  have hLoop := @fill_eq_foldl _ (fun k (marks : Array UInt8) => marks.setIfInBounds (target + k) 1)
    (fun k => markFrom (target + k)) (fun _ _ => rfl) (fun _ _ _ => rfl) 0 n marks
  simpa only [Nat.add_zero, Nat.zero_add] using hLoop

open Number

def Run.stretch (r : Run) : Stretch := ⟨r.source.toNat, r.target.toNat, r.length.toNat⟩

def Run.put? (dtype : DType) (v : TileValues) (o : Nat) (r : Run) : Option Number :=
  (placeOf r.stretch.target r.stretch.length o).map fun k => dtype.round (v.value (r.stretch.source + k))

variable {r : Run} {e : Stretch} {o : Nat}

theorem Run.placeOf_of_not_covers (h : ¬ r.Covers o) : placeOf r.stretch.target r.stretch.length o = none :=
  if_neg h

theorem Run.IsAt.stretch_eq (h : r.IsAt e) : r.stretch = e := by
  rw [Run.stretch, toNat_of_index? h.source, toNat_of_index? h.target, toNat_of_index? h.length]

namespace Canvas

variable (v : TileValues)

theorem transcribe_eq_copyStretch (c : Canvas dtype) (r : Run) : c.transcribe v r = c.copyStretch v r.stretch := by
  refine ext (Buffer.copyFrom_eq_foldl v _ _ _ _).symm ?_
  exact congrArg (fun mark => c.marks.map mark) (funext fun marks => (markFrom_eq_foldl _ _ marks).symm)

theorem settles_transcribe (r : Run) (o : Nat) :
    Settles (fun c : Canvas dtype => c.buffer.get? o) (fun c => c.transcribe v r) (r.put? dtype v o) := by
  simp only [transcribe_eq_copyStretch]
  exact settles_copyStretch v r.stretch o

theorem sameAt_transcribe (h : ¬ r.Covers o) (c : Canvas dtype) : SameAt o (c.transcribe v r) c := by
  have hValue : Settles (fun c : Canvas dtype => c.buffer.get? o) _ _ := settles_transcribe v r o
  have hMark : Settles (fun c : Canvas dtype => c.mark? o) _ _ := settles_mark_copyStretch v r.stretch o
  rw [Run.put?, Run.placeOf_of_not_covers h] at hValue
  rw [Run.placeOf_of_not_covers h] at hMark
  refine ⟨hValue.view_eq c, ?_⟩
  rw [transcribe_eq_copyStretch]
  exact hMark.view_eq c

theorem sameAt_foldl {rs : List Run} (h : ∀ r ∈ rs, ¬ r.Covers o) (c : Canvas dtype) :
    SameAt o (rs.foldl (transcribe v) c) c :=
  List.foldlRecOn rs (transcribe v) (motive := fun d => SameAt o d c) ⟨rfl, rfl⟩
    fun d hSame r hr => (sameAt_transcribe v (h r hr) d).trans hSame

theorem Walks.sameAt {c d : Canvas dtype} {plans : List Plan} (hWalks : c.Walks plans d)
    (h : ∀ p ∈ plans, ∀ k, ∀ r ∈ p.runs k, ¬ r.Covers o) : SameAt o d c := by
  induction hWalks with
  | nil => exact ⟨rfl, rfl⟩
  | @cons c d p plans rs hYields _ ih =>
    have hRuns : ∀ r ∈ rs, ¬ r.Covers o := by
      have hHead := h p List.mem_cons_self (rs.length + 1)
      rwa [hYields] at hHead
    exact (ih fun q hq => h q (List.mem_cons_of_mem p hq)).trans (sameAt_foldl p.values hRuns c)

end Canvas

namespace Plan

variable {p : Plan} {i n size : Nat}

theorem runsFrom_of_ended {x : Number} {k : Nat} (h : (p.runsFrom x k).length < k) (m : Nat) :
    p.runsFrom x (k + m) = p.runsFrom x k := by
  induction k generalizing x with
  | zero => exact absurd h (Nat.not_lt_zero _)
  | succ k ih =>
    rw [Nat.succ_add, runsFrom, runsFrom]
    rw [runsFrom] at h
    split
    · rename_i hBelow
      rw [if_pos hBelow, List.length_cons, Nat.add_lt_add_iff_right] at h
      rw [ih h]
    · rfl

theorem Yields.unique {rs rs' : List Run} (h : p.Yields rs) (h' : p.Yields rs') : rs = rs' := by
  have hEnded {rs : List Run} (h : p.Yields rs) (m : Nat) : p.runs (rs.length + 1 + m) = rs := by
    have hLess : (p.runs (rs.length + 1)).length < rs.length + 1 := by
      rw [h]
      exact Nat.lt_succ_self _
    exact (runsFrom_of_ended hLess m).trans h
  have hBoth := hEnded h rs'.length
  have hSame : rs.length + 1 + rs'.length = rs'.length + 1 + rs.length := by omega
  rw [hSame, hEnded h' rs.length] at hBoth
  exact hBoth.symm

theorem runs_eq_runsFrom (p : Plan) (k : Nat) : p.runs k = p.runsFrom (Number.ofNat 0) k := by
  have hZero : Number.zero = Number.ofNat 0 := by decide +kernel
  rw [runs, hZero]

theorem runsFrom_ofNat (hRuns : p.runCount.index? = some n) (hn : n ≤ exactLimit) {j : Nat} (hj : j ≤ n) (k : Nat) :
    p.runsFrom (Number.ofNat j) k = (List.range' j (min k (n - j))).map fun i => p.run (Number.ofNat i) := by
  induction k generalizing j with
  | zero => rw [Nat.zero_min]; rfl
  | succ k ih =>
    have hBelow : (Number.ofNat j).lt p.runCount = true ↔ j < n := lt_iff (index?_ofNat (hj.trans hn)) hRuns
    rw [runsFrom]
    split
    · rename_i hLess
      have hLess := hBelow.mp hLess
      have hCount : min (k + 1) (n - j) = min k (n - (j + 1)) + 1 := by omega
      rw [ofNat_succ (by omega), ih hLess, hCount, List.range'_succ, List.map_cons]
    · rename_i hLast
      have hNone : min (k + 1) (n - j) = 0 := by
        have := mt hBelow.mpr hLast
        omega
      rw [hNone]
      rfl

theorem runs_eq (hRuns : p.runCount.index? = some n) (hn : n ≤ exactLimit) (k : Nat) :
    p.runs k = (List.range (min k n)).map fun i => p.run (Number.ofNat i) := by
  rw [runs_eq_runsFrom, runsFrom_ofNat hRuns hn (Nat.zero_le n), Nat.sub_zero, List.range_eq_range']

theorem yields_of_counted (hRuns : p.runCount.index? = some n) (hn : n ≤ exactLimit) :
    p.Yields ((List.range n).map fun i => p.run (Number.ofNat i)) := by
  rw [Yields, List.length_map, List.length_range, runs_eq hRuns hn, Nat.min_eq_right (Nat.le_succ n)]

/-- Up to the limit the numbers of the runs grow, and there they stay. -/
theorem length_runsFrom_of_vast (hRuns : p.runCount.index? = some n) (hn : exactLimit < n) {j : Nat}
    (hj : j ≤ exactLimit) (k : Nat) : (p.runsFrom (Number.ofNat j) k).length = k := by
  induction k generalizing j with
  | zero => rfl
  | succ k ih =>
    have hBelow : (Number.ofNat j).lt p.runCount = true := (lt_iff (index?_ofNat hj) hRuns).mpr (by omega)
    rw [runsFrom, if_pos hBelow, List.length_cons]
    rcases Nat.lt_or_eq_of_le hj with hLess | rfl
    · rw [ofNat_succ hLess, ih hLess]
    · rw [ofNat_exactLimit_add_one, ih (Nat.le_refl _)]

theorem length_runs_of_vast (hRuns : p.runCount.index? = some n) (hn : exactLimit < n) (k : Nat) :
    (p.runs k).length = k := by
  rw [runs_eq_runsFrom]
  exact length_runsFrom_of_vast hRuns hn (Nat.zero_le _) k

theorem exists_of_mem_runsFrom {j : Nat} (hj : j ≤ exactLimit) {k : Nat} {r : Run}
    (h : r ∈ p.runsFrom (Number.ofNat j) k) : ∃ i ≤ exactLimit, r = p.run (Number.ofNat i) := by
  induction k generalizing j with
  | zero => cases h
  | succ k ih =>
    rw [runsFrom] at h
    split at h
    · rcases List.mem_cons.mp h with rfl | hRest
      · exact ⟨j, hj, rfl⟩
      · rcases Nat.lt_or_eq_of_le hj with hLess | rfl
        · rw [ofNat_succ hLess] at hRest
          exact ih hLess hRest
        · rw [ofNat_exactLimit_add_one] at hRest
          exact ih (Nat.le_refl _) hRest
    · cases h

theorem Yields.le_exactLimit {rs : List Run} (h : p.Yields rs) (hRuns : p.runCount.index? = some n) :
    n ≤ exactLimit := by
  by_contra hVast
  have hLength := length_runs_of_vast hRuns (Nat.lt_of_not_le hVast) (rs.length + 1)
  rw [h] at hLength
  omega

namespace StaysInside

variable (h : p.StaysInside n size) (hSize : size ≤ maxSafe)

include h hSize

theorem isAt_run (hi : i < n) (hLimit : i ≤ exactLimit) (he : p.Describes i e)
    (hInside : e.Inside size p.values.count) : (p.run (Number.ofNat i)).IsAt e := by
  obtain ⟨first, hFirst, hStart, -⟩ := h.runs 0 (by omega)
  obtain ⟨hTarget, hSource⟩ := hInside
  have hExact := le_exactLimit hSize
  have hCount := le_exactLimit h.countable
  exact he.isAt_run hFirst (index?_ofNat hLimit) (by omega) (by omega) (by omega)

/-- Cursors that advance, and a last run in the place of all, come to what the runs come to one by one. -/
theorem apply_eq_foldl_runs (hn : n ≤ exactLimit) (c : Canvas dtype) : c.apply p =
    ((List.range n).map fun i => p.run (Number.ofNat i)).foldl (Canvas.transcribe p.values) c := by
  choose! f hf using h.runs
  rw [apply_eq_foldl f h.runCount hn hSize h.countable hf c, List.foldl_map]
  refine List.foldl_ext _ _ c fun c' i hi => ?_
  have hi := List.mem_range.mp hi
  rw [Canvas.transcribe_eq_copyStretch, (h.isAt_run hSize hi (hi.le.trans hn) (hf i hi).1 (hf i hi).2).stretch_eq]

theorem describes_of_vast (hVast : exactLimit < n) {k : Nat} {r : Run} (hr : r ∈ p.runs k) :
    ∃ i < n, ∃ e, p.Describes i e ∧ r.IsAt e ∧ e.Inside size p.values.count := by
  rw [runs_eq_runsFrom] at hr
  obtain ⟨i, hLimit, rfl⟩ := exists_of_mem_runsFrom (Nat.zero_le _) hr
  have hi : i < n := Nat.lt_of_le_of_lt hLimit hVast
  obtain ⟨e, hDescribes, hFits⟩ := h.runs i hi
  exact ⟨i, hi, e, hDescribes, h.isAt_run hSize hi hLimit hDescribes hFits, hFits⟩

/-- So many runs stay inside only if they land on one range. -/
theorem superstride_of_vast (hVast : exactLimit < n) : p.layout.superstride.isZero = true := by
  obtain ⟨first, ⟨-, ⟨start, step, hStart, hStep, hFirst⟩, -⟩, hFirstEnd, -⟩ := h.runs 0 (by omega)
  obtain ⟨second, ⟨-, ⟨start', step', hStart', hStep', hSecond⟩, -⟩, -, -⟩ :=
    h.runs 1 (Nat.lt_of_le_of_lt (by decide) hVast)
  obtain ⟨last, ⟨-, ⟨start'', step'', hStart'', hStep'', hLast⟩, -⟩, hLastEnd, -⟩ := h.runs (n - 1) (by omega)
  obtain rfl := Option.some.inj (hStart.symm.trans hStart')
  obtain rfl := Option.some.inj (hStart.symm.trans hStart'')
  obtain rfl := Option.some.inj (hStep.symm.trans hStep')
  obtain rfl := Option.some.inj (hStep.symm.trans hStep'')
  rw [Nat.cast_zero, zero_mul, add_zero] at hFirst
  rw [Nat.cast_one, one_mul] at hSecond
  have hStepEq : step = ((second.target - first.target : Int) : ℚ) := by
    push_cast
    rw [← hSecond, ← hFirst, add_sub_cancel_left]
  have hMoved : ((n - 1 : Nat) : Int) * (second.target - first.target) = last.target - first.target := by
    have hExact : ((n - 1 : Nat) : ℚ) * step = (last.target : ℚ) - first.target := by
      rw [← hLast, ← hFirst, add_sub_cancel_left]
    rw [hStepEq] at hExact
    exact_mod_cast hExact
  have hNone : (second.target - first.target : Int) = 0 := by
    by_contra hSome
    have hFar : n - 1 ≤ (last.target - first.target : Int).natAbs := by
      rw [← hMoved, Int.natAbs_mul, Int.natAbs_natCast]
      exact Nat.le_mul_of_pos_right _ (Int.natAbs_pos.mpr hSome)
    have hLimit : exactLimit = maxSafe + 1 := rfl
    omega
  rw [isZero_iff_value?, hStep, hStepEq, hNone, Int.cast_zero]

end StaysInside

theorem staysInside_of_integers {a b d : Int} {l : Nat} (hRuns : p.runCount.index? = some n)
    (hCount : p.values.count ≤ maxSafe) (hSource : p.layout.substride.toInt? = some a)
    (hStart : p.layout.initialSkip.toInt? = some b) (hStep : p.layout.superstride.toInt? = some d)
    (hLength : p.layout.chunkSize.index? = some l)
    (hInside : ∀ i < n, 0 ≤ i * a ∧ i * a + l ≤ p.values.count ∧ 0 ≤ b + i * d ∧ b + i * d + l ≤ size) :
    p.StaysInside n size where
  runCount := hRuns
  countable := hCount
  runs i hi := by
    obtain ⟨hFrom, hFromEnd, hTo, hToEnd⟩ := hInside i hi
    obtain ⟨source, hFromNat⟩ := Int.eq_ofNat_of_zero_le hFrom
    obtain ⟨target, hToNat⟩ := Int.eq_ofNat_of_zero_le hTo
    rw [hFromNat] at hFromEnd
    rw [hToNat] at hToEnd
    refine ⟨⟨source, target, l⟩, ⟨⟨a, value?_intCast_iff.mpr hSource, by exact_mod_cast hFromNat⟩,
      ⟨b, d, value?_intCast_iff.mpr hStart, value?_intCast_iff.mpr hStep, by exact_mod_cast hToNat⟩,
      value?_natCast_iff.mpr hLength⟩, ?_, ?_⟩
    · exact_mod_cast hToEnd
    · exact_mod_cast hFromEnd

theorem index?_totalRuns {plans : List Plan} (h : ∀ p ∈ plans, ∃ n, p.runCount.index? = some n)
    (hSum : (plans.map fun p => p.runCount.toNat).sum ≤ exactLimit) :
    (totalRuns plans).index? = some (plans.map fun p => p.runCount.toNat).sum := by
  have hFrom (x : Number) (a : Nat) (hx : x.index? = some a)
      (hLimit : a + (plans.map fun p => p.runCount.toNat).sum ≤ exactLimit) :
      (plans.foldl (fun sum p => sum + p.runCount) x).index? =
        some (a + (plans.map fun p => p.runCount.toNat).sum) := by
    clear hSum
    induction plans generalizing x a with
    | nil => exact hx
    | cons p plans ih =>
      obtain ⟨n, hn⟩ := h p List.mem_cons_self
      rw [List.map_cons, List.sum_cons, toNat_of_index? hn] at hLimit ⊢
      rw [List.foldl_cons, ih (fun q hq => h q (List.mem_cons_of_mem p hq)) (x + p.runCount) (a + n)
        (index?_add hx hn (by omega)) (by omega), Nat.add_assoc]
  have hTotal := hFrom Number.zero 0 index?_zero (by omega)
  rwa [Nat.zero_add] at hTotal

end Plan

theorem TileDraft.staysInside_of_plan {t : TileDraft} {tile size : Number} {m : Nat} {p : Plan}
    (h : t.plan tile size = .ok p) (hSize : size.index? = some m) (hm : m ≤ maxSafe) (hCount : t.Countable) :
    ∃ n ≤ exactLimit, p.StaysInside n m := by
  obtain ⟨s, hHolds, hPerforms, hFits⟩ := TileDraft.plan_eq_ok h hSize hm hCount
  obtain ⟨-, -, -, hRuns⟩ := hHolds .iterations
  refine ⟨s.runs, le_exactLimit (Nat.le_trans s.runs_le hRuns), hPerforms.runCount, ?_, ?_⟩
  · rw [hPerforms.values]
    exact hCount.row_count_le
  · rw [hPerforms.values]
    exact fun i hi => ⟨s.stretch i, hPerforms.describes_inside hFits i hi⟩

namespace Plan

variable {p : Plan} {n size : Nat}

theorem StaysInside.apply_of_vast (h : p.StaysInside n size) (hSize : size ≤ maxSafe) (hn : 2 * exactLimit ≤ n)
    (c : Canvas dtype) : c.apply p = c := by
  have hZero := h.superstride_of_vast hSize (Nat.lt_of_lt_of_le (by decide) hn)
  have hLast : p.lastRun = p.runCount := by
    unfold lastRun
    rw [sub_one_of_vast h.runCount hn]
    exact if_neg (by rw [lt_iff h.runCount index?_zero]; exact Nat.not_lt_zero n)
  have hNone : ¬ p.lastRun.lt p.runCount = true := by
    rw [hLast, lt_iff h.runCount h.runCount]
    exact Nat.lt_irrefl n
  rw [Canvas.apply, visibleCount, if_pos hZero, if_neg hNone]
  rfl

end Plan

namespace Canvas

theorem walks_applyAll {plans : List Plan} (c : Canvas dtype) (hSize : c.buffer.size ≤ maxSafe)
    (h : ∀ p ∈ plans, ∃ n ≤ exactLimit, p.StaysInside n c.buffer.size) : c.Walks plans (c.applyAll plans) := by
  induction plans generalizing c with
  | nil => exact .nil c
  | cons p plans ih =>
    obtain ⟨n, hn, hInside⟩ := h p List.mem_cons_self
    have hApply := hInside.apply_eq_foldl_runs hSize hn c
    have hSame : (c.apply p).buffer.size = c.buffer.size := size_execute ..
    refine .cons (Plan.yields_of_counted hInside.runCount hn) ?_
    rw [← hApply]
    exact ih (c.apply p) (hSame.trans_le hSize) (hSame ▸ fun q hq => h q (List.mem_cons_of_mem p hq))

theorem Walks.unique {c d e : Canvas dtype} {plans : List Plan} (h : c.Walks plans d) (h' : c.Walks plans e) :
    d = e := by
  induction h with
  | nil => cases h'; rfl
  | cons hYields _ ih =>
    cases h' with
    | cons hYields' hRest =>
      obtain rfl := hYields.unique hYields'
      exact ih hRest

theorem Walks.le_exactLimit {c d : Canvas dtype} {plans : List Plan} {size : Nat} (hWalks : c.Walks plans d)
    (h : ∀ p ∈ plans, ∃ n, p.StaysInside n size) : ∀ p ∈ plans, ∃ n ≤ exactLimit, p.StaysInside n size := by
  induction hWalks with
  | nil => exact fun p hp => absurd hp List.not_mem_nil
  | @cons _ _ p plans rs hYields _ ih =>
    obtain ⟨n, hInside⟩ := h p List.mem_cons_self
    exact List.forall_mem_cons.mpr ⟨⟨n, hYields.le_exactLimit hInside.runCount, hInside⟩,
      ih fun q hq => h q (List.mem_cons_of_mem p hq)⟩

/-- Applying plans that stay inside is taking their runs one by one, whatever the canvas holds: as long as no plan has
more than `2 ^ 53` runs, those that it yields are those that it describes, applying comes to what they come to one by
one, and nothing changes that no run covers; and what the runs come to one by one, if they end, is never anything else.
A plan of more runs yields described runs without end; of `2 ^ 54` runs or more none is copied. The runs are counted.
A plan that a tile is planned to stays inside and has no more than `2 ^ 53` runs. -/
theorem applyAll_walked (c : Canvas dtype) (plans : List Plan) (hSize : c.buffer.size ≤ maxSafe)
    (h : ∀ p ∈ plans, ∃ n, p.StaysInside n c.buffer.size) :
    ((∀ p ∈ plans, p.runCount.toNat ≤ exactLimit) →
      c.Walks plans (c.applyAll plans) ∧
      (∀ p ∈ plans, ∃ rs, p.Yields rs ∧ p.runCount.index? = some rs.length ∧ ∀ i < rs.length, ∃ r e,
        rs[i]? = some r ∧ p.Describes i e ∧ r.IsAt e ∧ e.Inside c.buffer.size p.values.count) ∧
      ∀ o, (∀ p ∈ plans, ∀ k, ∀ r ∈ p.runs k, ¬ r.Covers o) → SameAt o (c.applyAll plans) c) ∧
    (∀ d, c.Walks plans d → d = c.applyAll plans) ∧
    (∀ p ∈ plans, exactLimit < p.runCount.toNat →
      (∀ k, (p.runs k).length = k ∧ ∀ r ∈ p.runs k, ∃ i < p.runCount.toNat, ∃ e,
        p.Describes i e ∧ r.IsAt e ∧ e.Inside c.buffer.size p.values.count) ∧
      (2 * exactLimit ≤ p.runCount.toNat → ∀ d : Canvas dtype, d.apply p = d)) ∧
    ((plans.map fun p => p.runCount.toNat).sum ≤ exactLimit →
      (Plan.totalRuns plans).index? = some (plans.map fun p => p.runCount.toNat).sum) ∧
    ∀ (t : TileDraft) (tile size : Number) (p : Plan), t.plan tile size = .ok p →
      size.index? = some c.buffer.size → t.Countable → ∃ n ≤ exactLimit, p.StaysInside n c.buffer.size := by
  have hCounts {p : Plan} {n : Nat} (hInside : p.StaysInside n c.buffer.size) : p.runCount.toNat = n :=
    toNat_of_index? hInside.runCount
  refine ⟨fun hCounted => ?_, fun d hWalks => ?_, fun p hp hVast => ?_, Plan.index?_totalRuns fun p hp => ?_, ?_⟩
  · have hFew : ∀ p ∈ plans, ∃ n ≤ exactLimit, p.StaysInside n c.buffer.size := by
      intro p hp
      obtain ⟨n, hInside⟩ := h p hp
      exact ⟨n, hCounts hInside ▸ hCounted p hp, hInside⟩
    have hWalks := walks_applyAll c hSize hFew
    refine ⟨hWalks, fun p hp => ?_, fun o hOut => hWalks.sameAt hOut⟩
    obtain ⟨n, hn, hInside⟩ := hFew p hp
    have hLength : ((List.range n).map fun i => p.run (Number.ofNat i)).length = n := by
      rw [List.length_map, List.length_range]
    refine ⟨_, Plan.yields_of_counted hInside.runCount hn, hInside.runCount.trans (congrArg some hLength.symm),
      fun i hi => ?_⟩
    rw [hLength] at hi
    obtain ⟨e, hDescribes, hFits⟩ := hInside.runs i hi
    have hAt := hInside.isAt_run hSize hi (hi.le.trans hn) hDescribes hFits
    refine ⟨p.run (Number.ofNat i), e, ?_, hDescribes, hAt, hFits⟩
    rw [List.getElem?_map, List.getElem?_range hi, Option.map_some]
  · exact hWalks.unique (walks_applyAll c hSize (hWalks.le_exactLimit h))
  · obtain ⟨n, hInside⟩ := h p hp
    rw [hCounts hInside] at hVast ⊢
    refine ⟨fun k => ⟨Plan.length_runs_of_vast hInside.runCount hVast k, fun r hr => ?_⟩,
      fun hn d => hInside.apply_of_vast hSize hn d⟩
    exact hInside.describes_of_vast hSize hVast hr
  · obtain ⟨n, hInside⟩ := h p hp
    exact ⟨n, hInside.runCount⟩
  · exact fun t tile size p hPlan hIndex hCount => TileDraft.staysInside_of_plan hPlan hIndex hSize hCount

def backwardPlan : Plan where
  tile := Number.zero
  values := .ofArray #[Number.ofNat 7, Number.ofNat 8, Number.ofNat 9]
  layout := ⟨Number.ofNat 5, Number.ofNat 1, Number.ofNat 9, Number.ofNat 1, Number.ofInt (-2)⟩
  runCount := Number.ofNat 3

def stackedPlan : Plan where
  tile := Number.ofNat 1
  values := .ofArray #[Number.ofNat 1, Number.ofNat 2, Number.ofNat 3]
  layout := ⟨Number.zero, Number.ofNat 2, Number.zero, Number.ofNat 1, Number.zero⟩
  runCount := Number.ofNat 2

/-- A single value copied on to one offset, `2 ^ 54` times. -/
def vastPlan : Plan where
  tile := Number.zero
  values := .ofArray #[Number.ofNat 5]
  layout := ⟨Number.zero, Number.ofNat 1, Number.ofNat 1, Number.zero, Number.zero⟩
  runCount := Number.ofNat (2 * exactLimit)

theorem backwardPlan_staysInside : backwardPlan.StaysInside 3 6 := by
  refine Plan.staysInside_of_integers (a := 1) (b := 5) (d := -2) (l := 1) (by decide +kernel)
    (by decide +kernel) (by decide +kernel) (by decide +kernel) (by decide +kernel) (by decide +kernel) ?_
  exact fun i hi => ⟨by omega, (by omega : (i : Int) * 1 + 1 ≤ 3), by omega, by omega⟩

theorem stackedPlan_staysInside : stackedPlan.StaysInside 2 6 := by
  refine Plan.staysInside_of_integers (a := 1) (b := 0) (d := 0) (l := 2) (by decide +kernel)
    (by decide +kernel) (by decide +kernel) (by decide +kernel) (by decide +kernel) (by decide +kernel) ?_
  exact fun i hi => ⟨by omega, (by omega : (i : Int) * 1 + 2 ≤ 3), by omega, by omega⟩

theorem vastPlan_staysInside : vastPlan.StaysInside (2 * exactLimit) 1 := by
  refine Plan.staysInside_of_integers (a := 0) (b := 0) (d := 0) (l := 1) (by decide +kernel)
    (by decide +kernel) (by decide +kernel) (by decide +kernel) (by decide +kernel) (by decide +kernel) ?_
  exact fun i _ => ⟨by omega, (by omega : (i : Int) * 0 + 1 ≤ 1), by omega, by omega⟩

theorem vastPlan_copied (k : Nat) : ((vastPlan.runs (k + 1)).foldl (transcribe vastPlan.values)
    (blank .double 1 true)).buffer.get? 0 = some (Number.ofNat 5) := by
  have hPut : ∀ r ∈ vastPlan.runs (k + 1), r.put? .double vastPlan.values 0 = some (Number.ofNat 5) := by
    intro r hr
    obtain ⟨i, -, e, hDescribes, hAt, hTarget, hSource⟩ :=
      vastPlan_staysInside.describes_of_vast (by decide) (by decide) hr
    have hCount : vastPlan.values.count = 1 := rfl
    have hLength : e.length = 1 := by
      have hOne : vastPlan.layout.chunkSize.value? = some (1 : Nat) := value?_natCast_iff.mpr (by decide +kernel)
      exact_mod_cast Option.some.inj (hDescribes.length.symm.trans hOne)
    have hStretch : r.stretch = ⟨0, 0, 1⟩ := by
      obtain ⟨source, target, length⟩ := e
      obtain rfl : length = 1 := hLength
      obtain rfl : target = 0 := by
        have := hTarget
        dsimp only at this
        omega
      obtain rfl : source = 0 := by
        have := hSource
        dsimp only at this
        omega
      exact hAt.stretch_eq
    rw [Run.put?, hStretch]
    decide +kernel
  have hWalk : Settles (fun c : Canvas .double => c.buffer.get? 0) _ _ :=
    Settles.foldl (vastPlan.runs (k + 1)) fun r _ => settles_transcribe vastPlan.values r 0
  have hLength := Plan.length_runs_of_vast vastPlan_staysInside.runCount (by decide) (k + 1)
  obtain ⟨r, hr⟩ : ∃ r, r ∈ vastPlan.runs (k + 1) := List.exists_mem_of_length_pos (by omega)
  rw [getLast?_filterMap_of_agree ⟨r, hr, hPut r hr⟩ fun r hr x hx =>
    Option.some.inj (hx.symm.trans (hPut r hr))] at hWalk
  exact hWalk.view_eq_some rfl

/-- Plans that are carried out; and the vast plan, of which nothing is, though any number of its runs copies the
value. -/
theorem applyAll_walked_vast :
    (∀ p ∈ [backwardPlan, stackedPlan], ∃ n, p.StaysInside n (blank .double 6 true).buffer.size) ∧
    (blank .double 6 true).Walks [backwardPlan, stackedPlan]
      ((blank .double 6 true).applyAll [backwardPlan, stackedPlan]) ∧
    (Plan.totalRuns [backwardPlan, stackedPlan]).index? = some 5 ∧
    (∀ p ∈ [vastPlan], ∃ n, p.StaysInside n (blank .double 1 true).buffer.size) ∧
    (blank .double 1 true).applyAll [vastPlan] = blank .double 1 true ∧
    ∀ k, ((vastPlan.runs (k + 1)).foldl (transcribe vastPlan.values) (blank .double 1 true)).buffer.get? 0 =
      some (Number.ofNat 5) := by
  have hSix : (blank .double 6 true).buffer.size = 6 := size_blank ..
  have hOne : (blank .double 1 true).buffer.size = 1 := size_blank ..
  have hBoth : ∀ p ∈ [backwardPlan, stackedPlan], ∃ n, p.StaysInside n (blank .double 6 true).buffer.size := by
    rw [hSix]
    exact List.forall_mem_cons.mpr
      ⟨⟨3, backwardPlan_staysInside⟩, List.forall_mem_singleton.mpr ⟨2, stackedPlan_staysInside⟩⟩
  have hVast : ∀ p ∈ [vastPlan], ∃ n, p.StaysInside n (blank .double 1 true).buffer.size := by
    rw [hOne]
    exact List.forall_mem_singleton.mpr ⟨_, vastPlan_staysInside⟩
  obtain ⟨hWalked, -, -, hTotal, -⟩ :=
    applyAll_walked (blank .double 6 true) [backwardPlan, stackedPlan] (hSix.trans_le (by decide)) hBoth
  obtain ⟨-, -, hKept, -⟩ := applyAll_walked (blank .double 1 true) [vastPlan] (hOne.trans_le (by decide)) hVast
  have hCount : vastPlan.runCount.toNat = 2 * exactLimit := toNat_of_index? vastPlan_staysInside.runCount
  have hCounts : ([backwardPlan, stackedPlan].map fun p => p.runCount.toNat).sum = 5 := by decide +kernel
  rw [hCounts] at hTotal
  refine ⟨hBoth, (hWalked (by decide +kernel)).1, hTotal (by decide), hVast, ?_, vastPlan_copied⟩
  have hNone := (hKept vastPlan List.mem_cons_self (by rw [hCount]; decide)).2 hCount.ge
  rw [applyAll, List.foldl_cons, List.foldl_nil, hNone]

end Canvas

end CubeSlice
