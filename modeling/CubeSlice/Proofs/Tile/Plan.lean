import CubeSlice.Proofs.Tile.Layout
import CubeSlice.Tile.Plan

/-!
# Runs inside their ranges

Whether strided copies stay inside is a matter of exact integers and of every run: `Strided.Fits`.
The check looks at the first and the last run only and computes in rounded arithmetic, yet it finds
an overflow just when there is one, and the run that it names is the first that leaves a range.
-/

namespace CubeSlice

namespace Strided

/-- Run `i` stays inside `size` elements of a slice and `count` values of a tile. -/
def RunFits (s : Strided Nat) (size count i : Nat) : Prop :=
  s.initialSkip + i * s.superstride + s.chunkSize ≤ size ∧ i * s.substride + s.chunkSize ≤ count

def Fits (s : Strided Nat) (size count : Nat) : Prop :=
  0 < s.iterations → 0 < s.chunkSize → ∀ i < s.iterations, s.RunFits size count i

end Strided

namespace Plan

open Number

/-- The first of `c` ranges whose end passes a limit, as it is found, if there is one. -/
inductive FirstPast (stop : Nat → Nat) (m c : Nat) : Option Number → Prop
  | none (h : ∀ i < c, stop i ≤ m) : FirstPast stop m c none
  | some {x : Number} {k : Nat} (index : x.index? = some k) (below : k < c) (past : m < stop k)
      (before : ∀ i < k, stop i ≤ m) : FirstPast stop m c (some x)

/-- The whole quotient counts the runs that still fit. -/
theorem fits_iff_le_div {a s l m i : Nat} (hs : 0 < s) (h : a + l ≤ m) :
    a + i * s + l ≤ m ↔ i ≤ (m - l - a) / s := by
  rw [Nat.le_div_iff_mul_le hs]
  omega

theorem firstOverflow_spec {start stride length limit count : Number} {a s l m c : Nat}
    (hStart : start.index? = some a) (hStride : stride.index? = some s)
    (hLength : length.index? = some l) (hLimit : limit.index? = some m)
    (hCount : count.index? = some c) (ha : a ≤ maxSafe) (hs : s ≤ maxSafe) (hm : m ≤ maxSafe)
    (hc : c ≤ maxSafe) (hPos : 0 < c) :
    FirstPast (fun i => a + i * s + l) m c (firstOverflow start stride length limit count) := by
  have hExact : exactLimit = maxSafe + 1 := rfl
  have hSafe := maxSafe_eq
  have hFirst : (start + length).Keeps (a + l) :=
    keeps_add (keeps_of_index? hStart (by omega)) hLength
  have hOne : (Number.ofNat 1).index? = some 1 := index?_ofNat (by decide)
  have hBefore : (count - Number.ofNat 1).index? = some (c - 1) :=
    index?_sub hCount hOne hPos (by omega)
  have hLast : (start + (count - Number.ofNat 1) * stride + length).Keeps (a + (c - 1) * s + l) := by
    refine keeps_add ?_ hLength
    rw [Number.add_comm, Nat.add_comm]
    exact keeps_add (keeps_mul hBefore hStride) hStart
  unfold firstOverflow
  split
  · rename_i hPast
    have hOver : m < a + l := (lt_iff_of_keeps hFirst hLimit hm).mp hPast
    exact .some index?_zero hPos (by simpa using hOver) fun i hi => absurd hi (Nat.not_lt_zero i)
  · rename_i hPast
    have hFits : a + l ≤ m := by
      rw [lt_iff_of_keeps hFirst hLimit hm] at hPast
      omega
    split
    · rename_i hZero
      obtain rfl := (isZero_iff hStride).mp hZero
      exact .none fun i _ => by simpa using hFits
    · rename_i hZero
      have hStridePos : 0 < s := by
        rw [isZero_iff hStride] at hZero
        omega
      split
      · rename_i hAll
        rw [le_iff_of_keeps hLast hLimit hm, fits_iff_le_div hStridePos hFits] at hAll
        exact .none fun i hi => (fits_iff_le_div hStridePos hFits).mpr (by omega)
      · rename_i hSome
        rw [le_iff_of_keeps hLast hLimit hm, fits_iff_le_div hStridePos hFits] at hSome
        have hRest : (limit - length - start).index? = some (m - l - a) :=
          index?_sub (index?_sub hLimit hLength (by omega) (by omega)) hStart (by omega) (by omega)
        have hRun : (((limit - length - start) / stride).floor + Number.ofNat 1).index? =
            some ((m - l - a) / s + 1) := by
          refine index?_add (index?_floor_div hRest hStride (by omega) hs hStridePos) hOne ?_
          have hQuotient := Nat.div_le_self (m - l - a) s
          omega
        have hPlus := (le_iff index?_zero hRun).mpr (Nat.zero_le _)
        dsimp only
        rw [if_pos hPlus]
        refine .some hRun (by omega) ?_ fun i hi => (fits_iff_le_div hStridePos hFits).mpr (by omega)
        have hNext := mt (fits_iff_le_div (i := (m - l - a) / s + 1) hStridePos hFits).mp (by omega)
        exact Nat.not_le.mp hNext

/-- The overflow of run `k`, the first run that leaves a range. Where it leaves both, the target is
named. -/
structure Overflow.Reports (o : Overflow) (s : Strided Nat) (tile : Number) (size count k : Nat) :
    Prop where
  tile : o.tile = tile
  run : o.run.index? = some k
  below : k < s.iterations
  leaves : ¬ s.RunFits size count k
  first : ∀ i < k, s.RunFits size count i
  side : o.side = .target ↔ size < s.initialSkip + k * s.superstride + s.chunkSize

namespace Overflow.Reports

variable {o : Overflow} {s : Strided Nat} {tile : Number} {size count k : Nat}

theorem of_target (hTile : o.tile = tile) (hRun : o.run.index? = some k) (hSide : o.side = .target)
    (hBelow : k < s.iterations) (hPast : size < s.initialSkip + k * s.superstride + s.chunkSize)
    (hFirst : ∀ i < k, s.RunFits size count i) : o.Reports s tile size count k where
  tile := hTile
  run := hRun
  below := hBelow
  leaves hFits := absurd hFits.1 (Nat.not_le.mpr hPast)
  first := hFirst
  side := ⟨fun _ => hPast, fun _ => hSide⟩

theorem of_source (hTile : o.tile = tile) (hRun : o.run.index? = some k) (hSide : o.side = .source)
    (hBelow : k < s.iterations) (hPast : count < k * s.substride + s.chunkSize)
    (hInside : s.initialSkip + k * s.superstride + s.chunkSize ≤ size)
    (hFirst : ∀ i < k, s.RunFits size count i) : o.Reports s tile size count k where
  tile := hTile
  run := hRun
  below := hBelow
  leaves hFits := absurd hFits.2 (Nat.not_le.mpr hPast)
  first := hFirst
  side := by
    rw [hSide]
    exact ⟨fun h => (by cases h), fun h => absurd hInside (Nat.not_le.mpr h)⟩

theorem not_fits (h : o.Reports s tile size count k) (hChunk : 0 < s.chunkSize) :
    ¬ s.Fits size count := fun hFits =>
  h.leaves (hFits (Nat.lt_of_le_of_lt (Nat.zero_le k) h.below) hChunk k h.below)

end Overflow.Reports

theorem overflow?_spec (l : Layout) (tile : Number) (values : TileValues) {size : Number} {n : Nat}
    (hSize : size.index? = some n) (hn : n ≤ maxSafe) (hCount : values.count ≤ maxSafe)
    (hRuns : 0 < l.naturals.iterations) :
    (overflow? l tile values size = none ∧
      ∀ i < l.naturals.iterations, l.naturals.RunFits n values.count i) ∨
    ∃ o k, overflow? l tile values size = some o ∧
      o.Reports l.naturals tile n values.count k := by
  unfold overflow?
  extract_lets length valueCount target? source? atTarget atSource
  have hTarget : FirstPast (fun i => l.initialSkip.toNat + i * l.superstride.toNat + l.chunkSize.toNat)
      n l.iterations.toNat target? :=
    firstOverflow_spec l.initialSkip.index?_number l.superstride.index?_number
      l.chunkSize.index?_number hSize l.iterations.index?_number l.initialSkip.toNat_le
      l.superstride.toNat_le hn l.iterations.toNat_le hRuns
  have hSource : FirstPast (fun i => 0 + i * l.substride.toNat + l.chunkSize.toNat) values.count
      l.iterations.toNat source? :=
    firstOverflow_spec index?_zero l.substride.index?_number l.chunkSize.index?_number
      (index?_ofNat (le_exactLimit hCount)) l.iterations.index?_number (Nat.zero_le _)
      l.substride.toNat_le hCount l.iterations.toNat_le hRuns
  simp only [Nat.zero_add (_ * _)] at hSource
  clear_value target? source?
  cases hTarget with
  | none hInside =>
    cases hSource with
    | none hRead => exact .inl ⟨rfl, fun i hi => ⟨hInside i hi, hRead i hi⟩⟩
    | @some x k hIndex hBelow hPast hRead =>
      refine .inr ⟨atSource x, k, rfl, .of_source rfl hIndex rfl hBelow hPast (hInside k hBelow) ?_⟩
      exact fun i hi => ⟨hInside i (Nat.lt_trans hi hBelow), hRead i hi⟩
  | @some y j hIndexT hBelowT hPastT hInside =>
    cases hSource with
    | none hRead =>
      refine .inr ⟨atTarget y, j, rfl, .of_target rfl hIndexT rfl hBelowT hPastT ?_⟩
      exact fun i hi => ⟨hInside i hi, hRead i (Nat.lt_trans hi hBelowT)⟩
    | @some x k hIndex hBelow hPast hRead =>
      -- both sides overflow: the earlier run is named, and the target in a tie
      rcases Nat.lt_or_ge k j with hLess | hLe
      · have hOrder : ¬ y.le x = true := by
          rw [le_iff hIndexT hIndex]
          omega
        refine .inr ⟨atSource x, k, congrArg some (if_neg hOrder),
          .of_source rfl hIndex rfl hBelow hPast (hInside k hLess) ?_⟩
        exact fun i hi => ⟨hInside i (Nat.lt_trans hi hLess), hRead i hi⟩
      · have hOrder : y.le x = true := (le_iff hIndexT hIndex).mpr hLe
        refine .inr ⟨atTarget y, j, congrArg some (if_pos hOrder),
          .of_target rfl hIndexT rfl hBelowT hPastT ?_⟩
        exact fun i hi => ⟨hInside i hi, hRead i (Nat.lt_of_lt_of_le hi hLe)⟩

end Plan

def Strided.runs (s : Strided Nat) : Nat := if s.chunkSize = 0 then 0 else s.iterations

namespace Plan

open Number

/-- A plan that carries out strided copies of the given values. -/
structure Performs (p : Plan) (s : Strided Nat) (v : TileValues) : Prop where
  values : p.values = v
  layout : ∀ f, (p.layout.get f).index? = some (s.get f)
  runCount : p.runCount.index? = some s.runs

theorem index?_numbers (l : Layout) (f : Layout.Field) :
    (l.numbers.get f).index? = some (l.naturals.get f) := by
  cases f
  · exact l.initialSkip.index?_number
  · exact l.chunkSize.index?_number
  · exact l.iterations.index?_number
  · exact l.substride.index?_number
  · exact l.superstride.index?_number

theorem isIdle_iff (l : Layout) :
    l.isIdle = true ↔ l.naturals.iterations = 0 ∨ l.naturals.chunkSize = 0 := by
  rw [Layout.isIdle, Bool.or_eq_true, isZero_iff l.iterations.index?_number,
    isZero_iff l.chunkSize.index?_number]
  rfl

theorem idle_performs (l : Layout) (tile : Number) (values : TileValues) (h : l.isIdle = true) :
    (idle l tile values).Performs l.naturals values := by
  refine ⟨rfl, index?_numbers l, ?_⟩
  have hNone : l.naturals.runs = 0 := by
    rw [isIdle_iff] at h
    unfold Strided.runs
    split
    · rfl
    · omega
  rw [hNone]
  exact index?_zero

theorem fits_of_isIdle {l : Layout} (h : l.isIdle = true) (size count : Nat) :
    l.naturals.Fits size count := by
  rw [isIdle_iff] at h
  intro hRuns hChunk
  omega

theorem ofLayout_spec (l : Layout) (tile : Number) (values : TileValues) {size : Number} {n : Nat}
    (hSize : size.index? = some n) (hn : n ≤ maxSafe) (hCount : values.count ≤ maxSafe) :
    (∃ p, ofLayout l tile values size = .ok p ∧ p.Performs l.naturals values ∧
      l.naturals.Fits n values.count) ∨
    ∃ o k, ofLayout l tile values size = .error o ∧ 0 < l.naturals.chunkSize ∧
      o.Reports l.naturals tile n values.count k := by
  unfold ofLayout
  split
  · rename_i hIdle
    exact .inl ⟨_, rfl, idle_performs l tile values hIdle, fits_of_isIdle hIdle n values.count⟩
  · rename_i hBusy
    rw [isIdle_iff] at hBusy
    have hChunk : 0 < l.naturals.chunkSize := by omega
    rcases overflow?_spec l tile values hSize hn hCount (by omega) with
      ⟨hNone, hFits⟩ | ⟨o, k, hSome, hReports⟩
    · rw [hNone]
      refine .inl ⟨_, rfl, ⟨rfl, index?_numbers l, ?_⟩, fun _ _ => hFits⟩
      rw [Strided.runs, if_neg (Nat.ne_of_gt hChunk)]
      exact l.iterations.index?_number
    · rw [hSome]
      exact .inr ⟨o, k, rfl, hChunk, hReports⟩

end Plan

namespace TileDraft

def row (t : TileDraft) : TileValues := t.values.getD .empty

/-- There are no more values than a safe integer can count. No array is longer. -/
def Countable (t : TileDraft) : Prop := ∀ v, t.values = some v → v.count ≤ maxSafe

theorem row_eq {t : TileDraft} {v : TileValues} (h : t.values = some v) : t.row = v := by
  rw [row, h]
  rfl

theorem Countable.row_count_le {t : TileDraft} (h : t.Countable) : t.row.count ≤ maxSafe := by
  cases hValues : t.values with
  | some v =>
    rw [row_eq hValues]
    exact h v hValues
  | none =>
    have hRow : t.row = .empty := by rw [row, hValues]; rfl
    rw [hRow]
    exact Nat.zero_le _

variable {t : TileDraft} {tile size : Number} {n : Nat}

theorem plan_of_layout {l : Layout} {v : TileValues} (hLayout : Layout.ofValue t.layout = .ok l)
    (hValues : t.values = some v) :
    t.plan tile size = (Plan.ofLayout l tile v size).mapError .overflow := by
  unfold plan
  rw [hLayout, hValues]

theorem plan_spec {v : TileValues} (hValues : t.values = some v) (hSize : size.index? = some n)
    (hn : n ≤ maxSafe) (hCount : v.count ≤ maxSafe) :
    (∃ e, Layout.ofValue t.layout = .error e ∧ t.plan tile size = .error (.layout tile e)) ∨
    ∃ s, Layout.Holds t.layout s ∧
      ((∃ p, t.plan tile size = .ok p ∧ p.Performs s v ∧ s.Fits n v.count) ∨
        ∃ o k, t.plan tile size = .error (.overflow o) ∧ 0 < s.chunkSize ∧
          o.Reports s tile n v.count k) := by
  cases hLayout : Layout.ofValue t.layout with
  | error e => exact .inl ⟨e, rfl, by rw [plan, hLayout]⟩
  | ok l =>
    refine .inr ⟨l.naturals, Layout.holds_naturals hLayout, ?_⟩
    rw [plan_of_layout hLayout hValues]
    rcases Plan.ofLayout_spec l tile v hSize hn hCount with
      ⟨p, hPlan, hPerforms, hFits⟩ | ⟨o, k, hPlan, hChunk, hReports⟩
    · exact .inl ⟨p, by rw [hPlan]; rfl, hPerforms, hFits⟩
    · exact .inr ⟨o, k, by rw [hPlan]; rfl, hChunk, hReports⟩

theorem plan_eq_ok {p : Plan} (h : t.plan tile size = .ok p) (hSize : size.index? = some n)
    (hn : n ≤ maxSafe) (hCount : t.Countable) :
    ∃ s, Layout.Holds t.layout s ∧ p.Performs s t.row ∧ s.Fits n t.row.count := by
  cases hValues : t.values with
  | some v =>
    rw [row_eq hValues]
    rcases @plan_spec t tile size n v hValues hSize hn (hCount v hValues) with
      ⟨e, -, hFail⟩ | ⟨s, hHolds, ⟨q, hPlan, hPerforms, hFits⟩ | ⟨o, k, hFail, -⟩⟩
    · rw [h] at hFail
      cases hFail
    · rw [h] at hPlan
      cases hPlan
      exact ⟨s, hHolds, hPerforms, hFits⟩
    · rw [h] at hFail
      cases hFail
  | none =>
    have hRow : t.row = .empty := by rw [row, hValues]; rfl
    unfold plan at h
    rw [hValues] at h
    split at h
    · cases h
    · rename_i l hLayout
      dsimp only at h
      split at h
      · rename_i hIdle
        cases h
        rw [hRow]
        exact ⟨_, Layout.holds_naturals hLayout, Plan.idle_performs l tile .empty hIdle,
          Plan.fits_of_isIdle hIdle n _⟩
      · cases h

end TileDraft

end CubeSlice
