import CubeSlice.Proofs.Command.Outcome

/-!
# Traces of runs

The trace of a run is all that it adds to the events of its world. What a run hands to the writer is what it would
write on a disk that takes everything: nothing else of a run depends on the disk, and the disk decides about the slice
that is handed over by its path alone.
-/

namespace CubeSlice

def Event.write? : Event → Option (String × Slice × OutputFormat)
  | .write path slice format => some (path, slice, format)
  | _ => none

namespace Command

def trace (argv : List String) (env : Environment) (w : World) : List Event :=
  ((run argv env).run w).2.events.drop w.events.length

def requests (argv : List String) (env : Environment) (w : World) : List Request :=
  (trace argv env w).filterMap Event.request?

def handed (argv : List String) (env : Environment) (w : World) : List (String × Slice × OutputFormat) :=
  (trace argv env (w.onDisk .ready)).filterMap Event.write?

variable {argv : List String} {env : Environment} {w : World} {a : Arguments} {client : Client}
  {target : Arguments.Target} {slice : Slice} {shown : List Event}

theorem trace_eq {t : List Event} (h : ((run argv env).run w).2.events = w.events ++ t) : trace argv env w = t := by
  rw [trace, h, List.drop_left]

theorem events_eq_append_trace : ((run argv env).run w).2.events = w.events ++ trace argv env w := by
  obtain ⟨-, -, ⟨t, hEvents, -⟩, -⟩ := endsSomehow argv env w
  rw [trace_eq hEvents, hEvents]

theorem filterMap_filter_isLog {α : Type} {read : Event → Option α} (hCall : ∀ call, read (.call call) = none)
    (hLog : ∀ line, read (.log line) = none) (t : List Event) :
    (t.filter fun e => !e.isLog).filterMap read = t.filterMap read := by
  rw [List.filterMap_filter]
  congr 1
  funext e
  cases e with
  | call call => exact (hCall call).symm
  | log line => exact (hLog line).symm
  | _ => rfl

theorem filterMap_write?_of_shows {after : World} {t : List Event} (h : w.Shows after shown)
    (hEvents : after.events = w.events ++ t) : t.filterMap Event.write? = shown.filterMap Event.write? := by
  obtain ⟨t', hEvents', rfl⟩ := h
  rw [hEvents, List.append_cancel_left_eq] at hEvents'
  rw [hEvents', filterMap_filter_isLog (fun _ => rfl) fun _ => rfl]

theorem filterMap_write?_requests (asked : List Request) : (asked.map Event.request).filterMap Event.write? = [] := by
  rw [List.filterMap_map]
  exact List.filterMap_eq_nil_iff.mpr fun _ _ => rfl

theorem filterMap_reported {α : Type} {read : Event → Option α} (hStderr : ∀ text, read (.stderr text) = none)
    (f : Failure) : (reported f).filterMap read = [] := by
  rw [reported, List.filterMap_cons_none (hStderr f.line)]
  split
  · rw [List.filterMap_cons_none (hStderr usage), List.filterMap_nil]
  · rfl

section Perform

variable {after : World}

theorem written_of_perform {r : Except Interruption Nat} (hPerform : (perform argv env).run w = (r, after))
    (hShows : w.Shows after shown) : (trace argv env w).filterMap Event.write? = shown.filterMap Event.write? := by
  obtain ⟨t, hEvents, -⟩ := id hShows
  rw [← filterMap_write?_of_shows hShows hEvents]
  rcases r with (f | v) | code
  · have hRun : ((run argv env).run w).2.events = w.events ++ (t ++ reported f) := by
      rw [run_of_failure hPerform, ← List.append_assoc, ← hEvents]
    rw [trace_eq hRun, List.filterMap_append, filterMap_reported fun _ => rfl, List.append_nil]
  · rw [trace_eq (by rw [run_of_thrown hPerform, hEvents])]
  · rw [trace_eq (by rw [run_of_ok hPerform, hEvents])]

end Perform

theorem exists_prepared_of_requests (hFetches : Fetches argv a) (h : requests argv env w ≠ []) :
    ∃ client target, prepared a env w.clock = .ok (client, target) := by
  cases hPrepared : prepared a env w.clock with
  | ok ready => exact ⟨ready.1, ready.2, rfl⟩
  | error f =>
    refine absurd ?_ h
    have hRun : ((run argv env).run w).2.events = w.events ++ reported f := by
      rw [run_of_failure (run_perform_of_unprepared hFetches hPrepared), events_leveled]
    rw [requests, trace_eq hRun]
    exact filterMap_reported (fun _ => rfl) f

/-- How the writer is called in a run: never, so that the disk does not matter; or with one slice, which it takes or
which ends the run. -/
inductive WriterCalled (argv : List String) (env : Environment) (w : World) :
    List (String × Slice × OutputFormat) → Prop
  | never (hBlind : (run argv env).Blind w) (hNone : (trace argv env w).filterMap Event.write? = []) :
    WriterCalled argv env w []
  | taken {path : String} {slice : Slice} {format : OutputFormat} (hDisk : w.disk.failure? path = none)
    (hWritten : (trace argv env w).filterMap Event.write? = [(path, slice, format)]) :
    WriterCalled argv env w [(path, slice, format)]
  | refused {path : String} {slice : Slice} {format : OutputFormat} {f : Failure}
    (hDisk : w.disk.failure? path = some f) (hCause : ((perform argv env).run w).1 = .error (.failure f))
    (hNone : (trace argv env w).filterMap Event.write? = []) : WriterCalled argv env w [(path, slice, format)]

theorem handed_of_blind (h : (run argv env).Blind w) :
    handed argv env w = (trace argv env w).filterMap Event.write? := by
  have hReady := h .ready
  rw [handed, trace, trace, hReady]
  rfl

theorem writerCalled_of_blind (hBlind : (perform argv env).Blind w) {r : Except Interruption Nat} {after : World}
    (hPerform : (perform argv env).run w = (r, after)) (hShows : w.Shows after shown)
    (hNone : shown.filterMap Event.write? = []) : WriterCalled argv env w (handed argv env w) := by
  have hWritten := (written_of_perform hPerform hShows).trans hNone
  rw [handed_of_blind (blind_run hBlind), hWritten]
  exact .never (blind_run hBlind) hWritten

section Prepared

variable (hFetches : Fetches argv a) (hPrepared : prepared a env w.clock = .ok (client, target))
include hFetches hPrepared

theorem run_perform_of_gathered {mid : World}
    (hGather : (gather a client target).run (leveled a env w) = (.ok slice, mid)) :
    (perform argv env).run w = (deliver a slice >>= fun _ => pure 0).run mid := by
  rw [run_perform_of_prepared hFetches hPrepared, fetch_eq, bind_assoc, Session.run_bind_of_ok hGather]

theorem written_of_gathered {mid : World} (hAsked : w.Asked mid (questions client target))
    (hGather : (gather a client target).run (leveled a env w) = (.ok slice, mid))
    (hDisk : ∀ path, a.output = some path → mid.disk.failure? path = none) :
    (trace argv env w).filterMap Event.write? = (written a slice).filterMap Event.write? := by
  obtain ⟨after, hDeliver, hShows⟩ := run_deliver a slice hDisk
  have hPerform := run_perform_of_gathered hFetches hPrepared hGather
  rw [Session.run_bind_of_ok hDeliver] at hPerform
  have hLast : [Event.stdout slice.summary.line].filterMap Event.write? = [] := rfl
  rw [written_of_perform hPerform (hAsked.shows.trans hShows), List.filterMap_append, filterMap_write?_requests,
    List.nil_append, List.filterMap_append, hLast, List.append_nil]

theorem writerCalled_of_gathered {mid : World} {path : String} (hAsked : w.Asked mid (questions client target))
    (hGather : (gather a client target).run (leveled a env w) = (.ok slice, mid)) (hOutput : a.output = some path) :
    WriterCalled argv env w (handed argv env w) := by
  have hBlind := (inquiry_gather a client target).blind (leveled a env w)
  have hMid : mid.disk = w.disk := by
    have hSame := hBlind.disk_eq
    rwa [hGather, disk_leveled] at hSame
  have hReady : (gather a client target).run (leveled a env (w.onDisk .ready)) = (.ok slice, mid.onDisk .ready) := by
    rw [leveled_onDisk, hBlind .ready, hGather]
  have hAskedReady : (w.onDisk .ready).Asked (mid.onDisk .ready) (questions client target) :=
    ⟨hAsked.shows, hAsked.replies⟩
  have hHanded : handed argv env w = (written a slice).filterMap Event.write? :=
    written_of_gathered (w := w.onDisk .ready) hFetches hPrepared hAskedReady hReady fun _ _ => rfl
  have hWritten : (written a slice).filterMap Event.write? =
      [(path, slice, OutputFormat.infer (some path) a.format)] := by
    rw [written, hOutput]
    rfl
  rw [hHanded, hWritten]
  cases hDisk : w.disk.failure? path with
  | none =>
    refine .taken hDisk ((written_of_gathered hFetches hPrepared hAsked hGather fun other hOther => ?_).trans hWritten)
    obtain rfl := Option.some.inj (hOutput.symm.trans hOther)
    rw [hMid, hDisk]
  | some f =>
    have hDeliver := run_deliver_of_failure a slice hOutput (hMid ▸ hDisk)
    have hPerform := run_perform_of_gathered hFetches hPrepared hGather
    rw [Session.run_bind_of_error hDeliver] at hPerform
    exact .refused hDisk (by rw [hPerform])
      ((written_of_perform hPerform hAsked.shows).trans (filterMap_write?_requests _))

theorem writerCalled_of_prepared : WriterCalled argv env w (handed argv env w) := by
  have hStart := asked_leveled a env w
  have hPerform := run_perform_of_prepared hFetches hPrepared
  rw [fetch_eq, bind_assoc] at hPerform
  have hGather := (inquiry_gather a client target).inquires (leveled a env w)
  rcases hRun : (gather a client target).run (leveled a env w) with ⟨r, mid⟩
  rw [hRun] at hGather
  cases hGather with
  | failed hPrefix hAsked hUsage =>
    rw [Session.run_bind_of_error hRun] at hPerform
    exact writerCalled_of_blind (blind_perform_of_stopped hFetches hPrepared hRun) hPerform
      (hStart.trans hAsked).shows (filterMap_write?_requests _)
  | thrown hPrefix hAsked hThrown =>
    rw [Session.run_bind_of_error hRun] at hPerform
    exact writerCalled_of_blind (blind_perform_of_stopped hFetches hPrepared hRun) hPerform
      (hStart.trans hAsked).shows (filterMap_write?_requests _)
  | @done slice _ hAsked hFetched =>
    cases hOutput : a.output with
    | some path => exact writerCalled_of_gathered hFetches hPrepared (hStart.trans hAsked) hRun hOutput
    | none =>
      have hBlind : (perform argv env).Blind w := by
        apply blind_perform_of_prepared hFetches hPrepared
        rw [fetch_eq]
        exact ((inquiry_gather a client target).blind _).bind fun slice mid _ => blind_deliver a slice mid hOutput
      have hNone : written a slice = [] := by rw [written, hOutput]
      obtain ⟨after, hDeliver, hShows⟩ := run_deliver a slice (w := mid) (by simp [hOutput])
      rw [Session.run_bind_of_ok hRun, Session.run_bind_of_ok hDeliver] at hPerform
      apply writerCalled_of_blind hBlind hPerform ((hStart.trans hAsked).shows.trans hShows)
      rw [List.filterMap_append, filterMap_write?_requests, hNone]
      rfl

end Prepared

/-- The writer is called at most once, and only a slice that it takes is written. -/
theorem writerCalled_handed (argv : List String) (env : Environment) (w : World) :
    WriterCalled argv env w (handed argv env w) := by
  by_cases hSome : ∃ a, Fetches argv a
  · obtain ⟨a, hFetches⟩ := hSome
    cases hPrepared : prepared a env w.clock with
    | ok ready => exact writerCalled_of_prepared hFetches hPrepared
    | error f =>
      exact writerCalled_of_blind (blind_perform_of_unprepared hFetches hPrepared)
        (run_perform_of_unprepared hFetches hPrepared) (asked_leveled a env w).shows rfl
  · obtain ⟨shown, way, hShows, hEnds⟩ := endsSomehow argv env w
    have hNever (hBlind : (run argv env).Blind w) (hNone : shown.filterMap Event.write? = []) :
        WriterCalled argv env w (handed argv env w) := by
      have hWritten := (filterMap_write?_of_shows hShows events_eq_append_trace).trans hNone
      rw [handed_of_blind hBlind, hWritten]
      exact .never hBlind hWritten
    generalize ((run argv env).run w).1 = r at hEnds
    cases hEnds with
    | help _ _ hBlind => exact hNever hBlind rfl
    | misuse _ hBlind => exact hNever hBlind rfl
    | success hFetches => exact absurd ⟨_, hFetches⟩ hSome
    | failure hFetches => exact absurd ⟨_, hFetches⟩ hSome
    | thrown hFetches => exact absurd ⟨_, hFetches⟩ hSome

end Command

end CubeSlice
