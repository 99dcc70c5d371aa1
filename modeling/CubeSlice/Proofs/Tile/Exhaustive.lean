import CubeSlice.Proofs.Number.Text
import CubeSlice.Proofs.Payload
import CubeSlice.Proofs.Slice.Assembly

/-!
# Looking at every run

Going through the runs one by one in exact integers finds the first one that leaves a range. Planning looks at two
runs and computes in rounded arithmetic, yet it refuses a tile just when such a run is found, and it reports that run,
the range that it leaves and the limit. The ends of the range are exact where numbers can hold them, and the end that
is reported is above the limit in any case.
-/

namespace CubeSlice

/-- How a run leaves a range, in exact integers. -/
structure Strided.Escape where
  run : Nat
  side : Plan.Side
  start : Nat
  stop : Nat
  limit : Nat

namespace Strided

variable {s : Strided Nat} {size count k : Nat} {e : Escape}

/-- How run `i` leaves its ranges, if it does. The target is looked at first. -/
def escape? (s : Strided Nat) (size count i : Nat) : Option Escape :=
  let target := s.initialSkip + i * s.superstride
  let source := i * s.substride
  if size < target + s.chunkSize then
    some ⟨i, .target, target, target + s.chunkSize, size⟩
  else if count < source + s.chunkSize then
    some ⟨i, .source, source, source + s.chunkSize, count⟩
  else
    none

/-- The first run that leaves a range, all runs that copy anything being looked at in their order. -/
def firstEscape? (s : Strided Nat) (size count : Nat) : Option Escape :=
  (List.range s.runs).findSome? (s.escape? size count)

theorem escape?_eq_none_iff {i : Nat} : s.escape? size count i = none ↔ s.RunFits size count i := by
  unfold escape? RunFits
  dsimp only
  split
  · rename_i hPast
    simp only [reduceCtorEq, false_iff, not_and]
    omega
  · split
    · rename_i hInside hPast
      simp only [reduceCtorEq, false_iff, not_and]
      omega
    · rename_i hInside hRead
      simp only [true_iff]
      omega

theorem escape?_of_target (h : size < s.initialSkip + k * s.superstride + s.chunkSize) :
    s.escape? size count k = some ⟨k, .target, s.initialSkip + k * s.superstride,
      s.initialSkip + k * s.superstride + s.chunkSize, size⟩ := if_pos h

theorem escape?_of_source (hInside : s.initialSkip + k * s.superstride + s.chunkSize ≤ size)
    (h : count < k * s.substride + s.chunkSize) :
    s.escape? size count k = some ⟨k, .source, k * s.substride, k * s.substride + s.chunkSize, count⟩ :=
  (if_neg (Nat.not_lt.mpr hInside)).trans (if_pos h)

theorem runs_of_pos (h : 0 < s.chunkSize) : s.runs = s.iterations := if_neg (Nat.ne_of_gt h)

theorem firstEscape?_eq_none (h : s.Fits size count) : s.firstEscape? size count = none := by
  apply List.findSome?_eq_none_iff.mpr
  intro i hi
  rw [List.mem_range, runs] at hi
  split at hi
  · exact absurd hi (Nat.not_lt_zero i)
  · exact escape?_eq_none_iff.mpr (h (by omega) (by omega) i hi)

theorem firstEscape?_eq_some (hk : k < s.runs) (hEscape : s.escape? size count k = some e)
    (hBefore : ∀ i < k, s.RunFits size count i) : s.firstEscape? size count = some e := by
  obtain ⟨rest, hRuns⟩ := Nat.exists_eq_add_of_lt hk
  have hSplit : List.range s.runs = List.range k ++ k :: (List.range rest).map fun i => k + (1 + i) := by
    rw [hRuns, Nat.add_assoc, Nat.add_comm rest, List.range_add, List.range_add]
    simp [Nat.add_assoc]
  have hNone : (List.range k).findSome? (s.escape? size count) = none :=
    List.findSome?_eq_none_iff.mpr fun i hi => escape?_eq_none_iff.mpr (hBefore i (List.mem_range.mp hi))
  rw [firstEscape?, hSplit, List.findSome?_append, hNone, List.findSome?_cons, hEscape]
  rfl

end Strided

namespace Number

theorem text_of_index? {x : Number} {n : Nat} (h : x.index? = some n) (hn : n ≤ maxSafe) : x.text = toString n := by
  rcases Nat.eq_zero_or_pos n with rfl | hPos
  · exact text_of_isZero ((isZero_iff h).mpr rfl)
  · rw [eq_ofNat_of_index? h hPos (le_exactLimit hn), text_ofNat hn]

end Number

namespace Plan

open Number

def Overflow.startOf (l : Layout) (o : Overflow) : Number :=
  match o.side with
  | .target => l.initialSkip.number + o.run * l.superstride.number
  | .source => o.run * l.substride.number

def Overflow.limitOf (size : Number) (count : Nat) (o : Overflow) : Number :=
  match o.side with
  | .target => size
  | .source => Number.ofNat count

variable {l : Layout} {tile size : Number} {values : TileValues} {o : Overflow}

attribute [local irreducible] Number.ofNat in
theorem ranges_of_overflow? (h : overflow? l tile values size = some o) :
    o.start = o.startOf l ∧ o.length = l.chunkSize.number ∧ o.limit = o.limitOf size values.count := by
  unfold overflow? at h
  extract_lets length valueCount target? source? atTarget atSource at h
  have hTarget (run : Number) : (atTarget run).start = (atTarget run).startOf l ∧
      (atTarget run).length = l.chunkSize.number ∧ (atTarget run).limit = (atTarget run).limitOf size values.count :=
    ⟨rfl, rfl, rfl⟩
  have hSource (run : Number) : (atSource run).start = (atSource run).startOf l ∧
      (atSource run).length = l.chunkSize.number ∧ (atSource run).limit = (atSource run).limitOf size values.count :=
    ⟨rfl, rfl, rfl⟩
  clear_value target? source? atTarget atSource
  split at h
  · obtain rfl := Option.some.inj h
    split
    · exact hTarget _
    · exact hSource _
  · obtain rfl := Option.some.inj h
    exact hTarget _
  · obtain rfl := Option.some.inj h
    exact hSource _
  · cases h

theorem overflow?_of_ofLayout (h : ofLayout l tile values size = .error o) :
    overflow? l tile values size = some o := by
  unfold ofLayout at h
  split at h
  · cases h
  · split at h
    · cases h
      assumption
    · cases h

/-- The report of an escape: the message begins with its tile and run, side and limit are as they are, and the ends
are exact where they can be. -/
structure Overflow.Tells (o : Overflow) (tile : Number) (e : Strided.Escape) : Prop where
  message : ∃ detail, o.message = "tile " ++ tile.text ++ " iteration " ++ toString e.run ++ ": " ++ detail
  tile : o.tile = tile
  run : o.run.index? = some e.run
  side : o.side = e.side
  limit : o.limit.index? = some e.limit
  ends : e.stop ≤ exactLimit → o.start.index? = some e.start ∧ o.stop.index? = some e.stop
  past : o.limit.lt o.stop = true

theorem Overflow.exists_message (o : Overflow) :
    ∃ detail, o.message = "tile " ++ o.tile.text ++ " iteration " ++ o.run.text ++ ": " ++ detail := by
  unfold message
  extract_lets range head
  split
  · exact ⟨"destination range " ++ range ++ " exceeds slice size " ++ o.limit.text,
      by simp only [head, String.append_assoc]⟩
  · exact ⟨"source range " ++ range ++ " exceeds " ++ o.limit.text ++ " tile values",
      by simp only [head, String.append_assoc]⟩

/-- Where the computed ends keep the exact ones, a range that passes its limit is told as it is. -/
theorem Overflow.tells_of_keeps {e : Strided.Escape} {a : Nat} (hTile : o.tile = tile)
    (hRun : o.run.index? = some e.run) (hSafe : e.run ≤ maxSafe) (hSide : o.side = e.side)
    (hLimit : o.limit.index? = some e.limit) (hBound : e.limit ≤ maxSafe) (hStart : o.start.Keeps e.start)
    (hLength : o.length.index? = some a) (hStop : e.stop = e.start + a) (hPast : e.limit < e.stop) :
    o.Tells tile e where
  message := by
    obtain ⟨detail, hMessage⟩ := o.exists_message
    rw [hTile, text_of_index? hRun hSafe] at hMessage
    exact ⟨detail, hMessage⟩
  tile := hTile
  run := hRun
  side := hSide
  limit := hLimit
  ends hExact := by
    have hStopKeeps : o.stop.Keeps e.stop := hStop ▸ keeps_add hStart hLength
    exact ⟨hStart.1 (by omega), hStopKeeps.1 hExact⟩
  past := by
    have hStopKeeps : o.stop.Keeps e.stop := hStop ▸ keeps_add hStart hLength
    exact (lt_iff_of_keeps hStopKeeps hLimit hBound).mpr hPast

theorem Overflow.Reports.exists_escape {n k : Nat} (h : o.Reports l.naturals tile n values.count k)
    (hOverflow : overflow? l tile values size = some o) (hSize : size.index? = some n) (hn : n ≤ maxSafe)
    (hCount : values.count ≤ maxSafe) (hChunk : 0 < l.naturals.chunkSize) :
    ∃ e, l.naturals.firstEscape? n values.count = some e ∧ o.Tells tile e := by
  obtain ⟨hStart, hLength, hLimit⟩ := ranges_of_overflow? hOverflow
  have hRuns : k < l.naturals.runs := (Strided.runs_of_pos hChunk).symm ▸ h.below
  have hSafe : k ≤ maxSafe := Nat.le_of_lt (Nat.lt_of_lt_of_le h.below l.iterations.toNat_le)
  have hChunkIndex : o.length.index? = some l.naturals.chunkSize := hLength ▸ l.chunkSize.index?_number
  cases hSide : o.side with
  | target =>
    have hPast := h.side.mp hSide
    rw [Overflow.startOf, hSide] at hStart
    rw [Overflow.limitOf, hSide] at hLimit
    have hKeeps : o.start.Keeps (l.naturals.initialSkip + k * l.naturals.superstride) := by
      rw [hStart, Number.add_comm, Nat.add_comm]
      exact keeps_add (keeps_mul h.run l.superstride.index?_number) l.initialSkip.index?_number
    refine ⟨_, Strided.firstEscape?_eq_some hRuns (Strided.escape?_of_target hPast) h.first, ?_⟩
    exact Overflow.tells_of_keeps h.tile h.run hSafe hSide (hLimit ▸ hSize) hn hKeeps hChunkIndex rfl hPast
  | source =>
    have hInside : l.naturals.initialSkip + k * l.naturals.superstride + l.naturals.chunkSize ≤ n := by
      apply Nat.not_lt.mp
      intro hPast
      rw [h.side.mpr hPast] at hSide
      cases hSide
    have hPast : values.count < k * l.naturals.substride + l.naturals.chunkSize := by
      apply Nat.not_le.mp
      intro hRead
      exact h.leaves ⟨hInside, hRead⟩
    rw [Overflow.startOf, hSide] at hStart
    rw [Overflow.limitOf, hSide] at hLimit
    have hKeeps : o.start.Keeps (k * l.naturals.substride) := by
      rw [hStart]
      exact keeps_mul h.run l.substride.index?_number
    have hLimitIndex : o.limit.index? = some values.count := hLimit ▸ index?_ofNat (le_exactLimit hCount)
    refine ⟨_, Strided.firstEscape?_eq_some hRuns (Strided.escape?_of_source hInside hPast) h.first, ?_⟩
    exact Overflow.tells_of_keeps h.tile h.run hSafe hSide hLimitIndex hCount hKeeps hChunkIndex rfl hPast

end Plan

/-- A tile with a sound layout is planned if no run is found to leave a range when all are looked at, and otherwise
the first one found is what its refusal reports. -/
theorem TileDraft.plan_exhaustive {t : TileDraft} {s : Strided Nat} {v : TileValues} {size : Number} {n : Nat}
    (hLayout : Layout.Holds t.layout s) (hValues : t.values = some v) (hCount : v.count ≤ maxSafe)
    (hSize : size.index? = some n) (hn : n ≤ maxSafe) (tile : Number) :
    match s.firstEscape? n v.count with
    | none => ∃ p, t.plan tile size = .ok p
    | some e => ∃ o, t.plan tile size = .error (.overflow o) ∧ o.Tells tile e := by
  obtain ⟨l, hOk⟩ := Layout.exists_ofValue_iff.mpr ⟨s, hLayout⟩
  obtain rfl := hLayout.unique (Layout.holds_naturals hOk)
  rw [plan_of_layout hOk hValues]
  rcases Plan.ofLayout_spec l tile v hSize hn hCount with
    ⟨p, hPlan, -, hFits⟩ | ⟨o, k, hPlan, hChunk, hReports⟩
  · rw [Strided.firstEscape?_eq_none hFits, hPlan]
    exact ⟨p, rfl⟩
  · have hOverflow := Plan.overflow?_of_ofLayout hPlan
    obtain ⟨e, hEscape, hTells⟩ := hReports.exists_escape hOverflow hSize hn hCount hChunk
    rw [hEscape, hPlan]
    exact ⟨o, rfl, hTells⟩

/-- Two values for runs that soon land beyond all safe integers. -/
def farTile : TileDraft := .ofValues ⟨1, 2, 3, 1, maxSafe⟩ [.zero, .zero]

theorem TileDraft.plan_exhaustive_farTile : Layout.Holds farTile.layout ⟨1, 2, 3, 1, maxSafe⟩ ∧
    ∃ o, farTile.plan .zero (.ofNat maxSafe) = .error (.overflow o) ∧
      o.Tells .zero ⟨1, .target, maxSafe + 1, maxSafe + 3, maxSafe⟩ := by
  have hLayout : Layout.Holds farTile.layout ⟨1, 2, 3, 1, maxSafe⟩ :=
    holds_ofValues _ fun f => by cases f <;> decide
  have hSize : (Number.ofNat maxSafe).index? = some maxSafe := Number.index?_ofNat (by decide)
  exact ⟨hLayout, plan_exhaustive hLayout (v := .ofArray #[.zero, .zero]) rfl (by decide) hSize (Nat.le_refl _) .zero⟩

end CubeSlice
