import CubeSlice.Proofs.Command.Appending
import CubeSlice.Proofs.Command.Beside
import CubeSlice.Proofs.Slice.Line

/-!
# Transposing

The switch for transposing turns the slice that is written and the summary of it, and nothing else: requests, log
lines, reports and exit code stay as they are, and so do path and format of the file.
-/

namespace CubeSlice

/-- What an event becomes when the slice is turned. The line that tells of the slice has rows and columns swapped, and
but for the mean it shows the same otherwise. -/
inductive Event.Turned : Event → Event → Prop
  | request (r : Request) : Turned (.request r) (.request r)
  | call (call : Log.Call) : Turned (.call call) (.call call)
  | log (line : Log.Line) : Turned (.log line) (.log line)
  | stderr (text : WideText) : Turned (.stderr text) (.stderr text)
  | write (path : String) (slice : Slice) (format : OutputFormat) :
    Turned (.write path slice format) (.write path slice.transpose format)
  | summary (slice : Slice) :
    Turned
      (.stdout ("shape=[" ++ toString slice.rows ++ ", " ++ toString slice.cols ++ "] min=" ++
        slice.summary.min.printed ++ " max=" ++ slice.summary.max.printed ++ " mean=" ++ slice.summary.mean.printed ++
        " zeros=" ++ toString (slice.toList.countP Number.isZero)))
      (.stdout ("shape=[" ++ toString slice.cols ++ ", " ++ toString slice.rows ++ "] min=" ++
        slice.summary.min.printed ++ " max=" ++ slice.summary.max.printed ++ " mean=" ++
        slice.transpose.summary.mean.printed ++ " zeros=" ++ toString (slice.toList.countP Number.isZero)))

theorem pairing_turned (level : Log.Level) : Pairing (List.Forall₂ Event.Turned) level level where
  nil := .nil
  append h h' := List.rel_append h h'
  request r := .cons (.request r) .nil
  stderr text := .cons (.stderr text) .nil
  log call := by
    refine .cons (.call call) ?_
    split
    · exact .cons (.log call.line) .nil
    · exact .nil

theorem filterMap_write?_of_turned {t t' : List Event} (h : List.Forall₂ Event.Turned t t') :
    t'.filterMap Event.write? = (t.filterMap Event.write?).map fun (path, slice, format) =>
      (path, slice.transpose, format) := by
  induction h with
  | nil => rfl
  | cons hEvent _ ih =>
    cases hEvent with
    | write path slice format => exact congrArg (List.cons _) ih
    | _ => exact ih

namespace Command

open Arguments (shapeWords)

variable {argv : List String} {env : Environment} {w : World} {a : Arguments}

theorem sameButTurned_turnOn (a : Arguments) : SameButTurned a (a.turnOn .transpose) := ⟨rfl, rfl, rfl⟩

theorem run_turned (hFetches : Fetches argv a) (hPlain : a.transpose = false) (env : Environment) (w : World) :
    ((run (argv ++ ["--transpose"]) env).run w).1 = ((run argv env).run w).1 ∧
      List.Forall₂ Event.Turned (trace argv env w) (trace (argv ++ ["--transpose"]) env w) := by
  have hTurned : Fetches (argv ++ ["--transpose"]) (a.turnOn .transpose) :=
    hFetches.append_switch (by decide) (List.mem_singleton.mpr rfl)
  have hLeveled : leveled (a.turnOn .transpose) env w = leveled a env w := rfl
  have hPrepared : prepared (a.turnOn .transpose) env w.clock = prepared a env w.clock := rfl
  have hPairing : Pairing (List.Forall₂ Event.Turned) (leveled a env w).level
      (leveled (a.turnOn .transpose) env w).level := pairing_turned _
  have hBeside : (leveled a env w).Beside (leveled (a.turnOn .transpose) env w) := ⟨rfl, rfl, rfl⟩
  have hEvents := events_leveled a env w
  have hOrient (slice : Slice) : orient a slice = slice := by rw [orient, hPlain]; rfl
  refine run_beside hPairing hEvents (hLeveled ▸ hEvents)
    (endBeside_perform hFetches hTurned hPrepared hPairing hBeside ?_)
  intro client target
  refine (sameButTurned_turnOn a).alongside_fetch client target hPairing hBeside ?_ ?_
  · intro path slice format
    rw [hOrient]
    exact .cons (.write path slice format) .nil
  · intro slice
    rw [hOrient]
    have hOriented : orient (a.turnOn .transpose) slice = slice.transpose := rfl
    rw [hOriented, slice.line_eq, slice.line_transpose]
    exact .cons (.summary slice) .nil

/-- A run with the slice transposed ends as it does without, with the same requests and reports. It hands the
transposed slice to the writer, for the same path in the same format and under the same conditions, and its summary has
the dimensions swapped. -/
theorem run_transposed (hFetches : Fetches argv a) (hPlain : a.transpose = false) (env : Environment) (w : World) :
    ((run (argv ++ ["--transpose"]) env).run w).1 = ((run argv env).run w).1 ∧
    List.Forall₂ Event.Turned (trace argv env w) (trace (argv ++ ["--transpose"]) env w) ∧
    (handed (argv ++ ["--transpose"]) env w = (handed argv env w).map fun (path, slice, format) =>
      (path, slice.transpose, format)) ∧
    WriterCalled argv env w (handed argv env w) ∧
    WriterCalled (argv ++ ["--transpose"]) env w (handed (argv ++ ["--transpose"]) env w) := by
  obtain ⟨hResult, hTraces⟩ := run_turned hFetches hPlain env w
  exact ⟨hResult, hTraces, filterMap_write?_of_turned (run_turned hFetches hPlain env (w.onDisk .ready)).2,
    writerCalled_handed argv env w, writerCalled_handed _ env w⟩

def Event.stdout? : Event → Option String
  | .stdout text => some text
  | _ => none

def givenArgv : List String := savedArgv ++ shapeWords two three

/-- Two rows of three, written and told of as three rows of two. -/
theorem run_transposed_given :
    ((run (givenArgv ++ ["--transpose"]) []).run sixWorld).1 = ((run givenArgv []).run sixWorld).1 ∧
    List.Forall₂ Event.Turned (trace givenArgv [] sixWorld) (trace (givenArgv ++ ["--transpose"]) [] sixWorld) ∧
    (handed (givenArgv ++ ["--transpose"]) [] sixWorld = (handed givenArgv [] sixWorld).map fun (path, slice, format) =>
      (path, slice.transpose, format)) ∧
    (handed givenArgv [] sixWorld).map (fun (path, slice, format) => (path, slice.rows, slice.cols, format)) =
      [("a.csv", 2, 3, .csv)] ∧
    (trace givenArgv [] sixWorld).filterMap Event.stdout? = ["shape=[2, 3] min=1 max=6 mean=3.5 zeros=0"] ∧
    (trace (givenArgv ++ ["--transpose"]) [] sixWorld).filterMap Event.stdout? =
      ["shape=[3, 2] min=1 max=6 mean=3.5 zeros=0"] := by
  have hTwo : two.isSafeInteger = true := by decide +kernel
  have hThree : three.isSafeInteger = true := by decide +kernel
  obtain ⟨hResult, hTraces, hHanded, -⟩ :=
    run_transposed (fetches_savedArgv.append_shape hTwo hThree) rfl [] sixWorld
  exact ⟨hResult, hTraces, hHanded, by decide +kernel, by decide +kernel, by decide +kernel⟩

end Command

end CubeSlice
