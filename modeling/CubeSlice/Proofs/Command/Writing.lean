import CubeSlice.Proofs.Command.Appending
import CubeSlice.Proofs.Command.Trace
import CubeSlice.Proofs.Slice.OutputFormat

/-!
# Files of runs

A run hands a slice to the writer for the path that it is given, in the format that is asked for or else in the one
that the path decides about.
-/

namespace CubeSlice.Command

variable {argv : List String} {env : Environment} {w : World} {a : Arguments} {path : String} {slice : Slice}
  {format : OutputFormat}

theorem mem_written_iff {s : Slice} : (path, slice, format) ∈ (written a s).filterMap Event.write? ↔
    a.output = some path ∧ slice = s ∧ format = OutputFormat.infer (some path) a.format := by
  unfold written
  cases a.output with
  | none => simp
  | some path' =>
    simp only [List.filterMap_cons, Event.write?, List.filterMap_nil, List.mem_singleton, Prod.mk.injEq,
      Option.some.injEq]
    constructor
    · rintro ⟨rfl, rfl, rfl⟩
      exact ⟨rfl, rfl, rfl⟩
    · rintro ⟨rfl, rfl, rfl⟩
      exact ⟨rfl, rfl, rfl⟩

theorem Ends.exists_written {way : Way} {r : Except Interruption Nat} {shown : List Event}
    (h : Ends argv env w way r shown) (hWritten : (path, slice, format) ∈ shown.filterMap Event.write?) :
    ∃ a, Fetches argv a ∧ (path, slice, format) ∈ (written a slice).filterMap Event.write? := by
  cases h with
  | help => cases hWritten
  | misuse => cases hWritten
  | @success a client target s hFetches =>
    have hLast : [Event.stdout s.summary.line].filterMap Event.write? = [] := rfl
    rw [List.filterMap_append, filterMap_write?_requests, List.nil_append, List.filterMap_append, hLast,
      List.append_nil, mem_written_iff] at hWritten
    obtain ⟨hOutput, -, hFormat⟩ := hWritten
    exact ⟨a, hFetches, mem_written_iff.mpr ⟨hOutput, rfl, hFormat⟩⟩
  | @failure a f asked =>
    have hLast (text : WideText) : [Event.stderr text].filterMap Event.write? = [] := rfl
    rw [List.filterMap_append, filterMap_write?_requests, hLast] at hWritten
    cases hWritten
  | thrown =>
    rw [filterMap_write?_requests] at hWritten
    cases hWritten

theorem exists_infer_of_handed (h : (path, slice, format) ∈ handed argv env w) :
    ∃ a, Fetches argv a ∧ a.output = some path ∧ format = OutputFormat.infer (some path) a.format := by
  obtain ⟨shown, way, hShows, hEnds⟩ := endsSomehow argv env (w.onDisk .ready)
  rw [handed, filterMap_write?_of_shows hShows events_eq_append_trace] at h
  obtain ⟨a, hFetches, hWritten⟩ := hEnds.exists_written h
  obtain ⟨hOutput, -, hFormat⟩ := mem_written_iff.mp hWritten
  exact ⟨a, hFetches, hOutput, hFormat⟩

/-- A slice is written for the path that was given: in the format that was asked for, or else, where the path ends in
a dot and the name of a format in any letter case or is such a name itself, in that format, and otherwise in JSON. -/
theorem run_writes_format (h : (path, slice, format) ∈ handed argv env w) :
    ∃ a, Fetches argv a ∧ a.output = some path ∧ (∀ f, a.format = some f → format = f) ∧
      (a.format = none → OutputFormat.Decides path format) := by
  obtain ⟨a, hFetches, hOutput, rfl⟩ := exists_infer_of_handed h
  refine ⟨a, hFetches, hOutput, fun f hAsked => ?_, fun hFree => ?_⟩
  · rw [hAsked]
    rfl
  · rw [hFree]
    exact OutputFormat.decides_infer path

def bareArgv : List String := plainArgv ++ ["--shape0", "1", "--shape1", "1", "--output", "CSV"]

def elementText : String :=
  "\x7b\"tiles\":[\x7b\"layout\":\x7b\"initial_skip\":0,\"chunk_size\":1,\"iterations\":1,\"substride\":0," ++
    "\"superstride\":0\x7d,\"v\":[7]\x7d]\x7d"

def elementWorld : World := { quietWorld with replies := [.response (Number.ofNat 200) "OK" elementText] }

theorem exists_handed_bare : ∃ slice, ("CSV", slice, .csv) ∈ handed bareArgv [] elementWorld := by
  have hHanded : (handed bareArgv [] elementWorld).map (fun h => (h.1, h.2.2)) = [("CSV", .csv)] := by decide +kernel
  have hMem : ("CSV", OutputFormat.csv) ∈ (handed bareArgv [] elementWorld).map (fun h => (h.1, h.2.2)) := by
    rw [hHanded]
    exact List.mem_singleton.mpr rfl
  obtain ⟨⟨path, slice, format⟩, hIn, hSame⟩ := List.mem_map.mp hMem
  cases hSame
  exact ⟨slice, hIn⟩

/-- There is no dot in the path, and still the slice is not written in JSON. -/
theorem run_writes_format_bare : ∃ slice, ("CSV", slice, .csv) ∈ handed bareArgv [] elementWorld ∧
    ∃ a, Fetches bareArgv a ∧ a.output = some "CSV" ∧ (∀ f, a.format = some f → .csv = f) ∧
      (a.format = none → OutputFormat.Decides "CSV" .csv) := by
  obtain ⟨slice, hHanded⟩ := exists_handed_bare
  exact ⟨slice, hHanded, run_writes_format hHanded⟩

end CubeSlice.Command
