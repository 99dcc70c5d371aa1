import CubeSlice.Proofs.Command.Fetch
import CubeSlice.Proofs.Command.Preparation
import Mathlib.Logic.ExistsUnique

/-!
# How runs end

A run ends in exactly one of five ways: it shows the usage; it shows the summary of a slice, after
writing the slice if there is a file for it; it reports a usage error before any request; it reports
another failure; or a value that the transport threw passes through. Each way fixes the exit code and
everything that is shown, log lines apart, so nothing is printed or written before a failure.
-/

namespace CubeSlice.Command

variable (argv : List String) (env : Environment) (w : World)

def plannedRequests (a : Arguments) (env : Environment) (now : Number) : List Request :=
  match prepared a env now with
  | .ok (client, target) => questions client target
  | .error _ => []

theorem plannedRequests_of_prepared {a : Arguments} {env : Environment} {now : Number} {client : Client}
    {target : Arguments.Target} (h : prepared a env now = .ok (client, target)) :
    plannedRequests a env now = questions client target := by
  rw [plannedRequests, h]

theorem length_plannedRequests_le (a : Arguments) (env : Environment) (now : Number) :
    (plannedRequests a env now).length ≤ 2 := by
  unfold plannedRequests
  split
  · exact length_questions_le _ _
  · exact Nat.zero_le 2

def Fetches (a : Arguments) : Prop := Arguments.parse argv = .ok a ∧ a.help = false

/-- A usage error: of the arguments, or of what arguments and settings leave out together. -/
def Misused (e : Arguments.Error) : Prop :=
  Arguments.parse argv = .error e ∨ ∃ a, Fetches argv a ∧ prepared a env w.clock = .error (.usage e)

inductive Way where
  | help
  | success
  | misuse
  | failure
  | thrown

/-- How a run ends in each way: with what result, and what it has shown, log lines apart. -/
inductive Ends : Way → Except Interruption Nat → List Event → Prop
  | help {a : Arguments} (hParse : Arguments.parse argv = .ok a) (hHelp : a.help = true)
    (hBlind : (run argv env).Blind w) : Ends .help (.ok 0) [.stdout usage]
  | success {a : Arguments} {client : Client} {target : Arguments.Target} {slice : Slice}
    (hFetches : Fetches argv a) (hPrepared : prepared a env w.clock = .ok (client, target))
    (hFetched : Fetched a client target w.replies slice) (hBlind : a.output = none → (run argv env).Blind w) :
    Ends .success (.ok 0)
      ((questions client target).map .request ++ (written a slice ++ [.stdout slice.summary.line]))
  | misuse {e : Arguments.Error} (hMisused : Misused argv env w e) (hBlind : (run argv env).Blind w) :
    Ends .misuse (.ok 2) [.stderr ("UsageError" ++ ": " ++ e.message), .stderr usage]
  | failure {a : Arguments} {f : Failure} {asked : List Request} (hFetches : Fetches argv a)
    (hCause : ((perform argv env).run w).1 = .error (.failure f)) (hUsage : f.isUsage = false)
    (hAsked : asked <+: plannedRequests a env w.clock)
    (hWriter : (∃ path, a.output = some path ∧ w.disk.failure? path = some f) ∨ (run argv env).Blind w) :
    Ends .failure (.ok 1) (asked.map .request ++ [.stderr (f.name ++ ": " ++ f.message)])
  | thrown {a : Arguments} {v : Json.Value} {asked : List Request} {last : Request} (hFetches : Fetches argv a)
    (hAsked : asked ++ [last] <+: plannedRequests a env w.clock)
    (hThrown : w.replies[asked.length]? = some (.thrown v)) (hBlind : (run argv env).Blind w) :
    Ends .thrown (.error (.thrown v)) ((asked ++ [last]).map .request)

variable {argv : List String} {env : Environment} {w after : World} {a : Arguments} {shown : List Event}

theorem Fetches.not_help (h : Fetches argv a) {b : Arguments} (hParse : Arguments.parse argv = .ok b) :
    b.help = false := by
  obtain ⟨hSame, hOff⟩ := h
  rw [hParse] at hSame
  cases hSame
  exact hOff

theorem Ends.unique {first second : Way} {r : Except Interruption Nat} {other : List Event}
    (h : Ends argv env w first r shown) (h' : Ends argv env w second r other) : first = second := by
  -- Only help and success have one result in common; the arguments tell them apart.
  cases h with
  | help hParse hHelp =>
    cases h' with
    | help => rfl
    | success hFetches => exact absurd (hFetches.not_help hParse) (hHelp ▸ Bool.noConfusion)
  | success hFetches =>
    cases h' with
    | help hParse hHelp => exact absurd (hFetches.not_help hParse) (hHelp ▸ Bool.noConfusion)
    | success => rfl
  | misuse => cases h'; rfl
  | failure => cases h'; rfl
  | thrown => cases h'; rfl

/-- The lines that report a failure. -/
def reported (f : Failure) : List Event := .stderr f.line :: if f.isUsage then [.stderr usage] else []

theorem run_report (f : Failure) (w : World) : (report f).run w =
    (.ok (if f.isUsage then 2 else 1), { w with events := w.events ++ reported f }) := by
  have hUsage (e : Arguments.Error) : (report (.usage e)).run w =
      (.ok 2, { w with events := w.events ++ [.stderr (Failure.usage e).line] ++ [.stderr usage] }) := rfl
  cases f with
  | usage e => rw [hUsage, List.append_assoc]; rfl
  | _ => rfl

theorem run_of_ok {code : Nat} (h : (perform argv env).run w = (.ok code, after)) :
    (run argv env).run w = (.ok code, after) := Session.run_tryCatch_of_ok h

theorem run_of_failure {f : Failure} (h : (perform argv env).run w = (.error (.failure f), after)) :
    (run argv env).run w =
      (.ok (if f.isUsage then 2 else 1), { after with events := after.events ++ reported f }) :=
  (Session.run_tryCatch_of_error h).trans (run_report f after)

theorem run_of_thrown {v : Json.Value} (h : (perform argv env).run w = (.error (.thrown v), after)) :
    (run argv env).run w = (.error (.thrown v), after) := Session.run_tryCatch_of_error h

theorem blind_report (f : Failure) (w : World) : (report f).Blind w := by
  intro disk
  cases f <;> rfl

theorem blind_run (h : (perform argv env).Blind w) : (run argv env).Blind w := by
  apply h.tryCatch
  intro i after _
  cases i with
  | failure f => exact blind_report f after
  | thrown v => exact fun _ => rfl

theorem perform_of_fetches (h : Fetches argv a) : perform argv env = execute a env >>= fun _ => pure 0 := by
  obtain ⟨hParse, hHelp⟩ := h
  simp only [perform, hParse, Session.ofExcept, pure_bind, hHelp]
  rfl

theorem blind_execute (h : ∀ client target, prepared a env w.clock = .ok (client, target) →
    (fetch a client target).Blind (leveled a env w)) : (execute a env).Blind w := by
  intro disk
  have hClock : (w.onDisk disk).clock = w.clock := rfl
  rw [run_execute, run_execute, hClock, leveled_onDisk]
  cases hPrepared : prepared a env w.clock with
  | error f => rfl
  | ok ready => exact h ready.1 ready.2 hPrepared disk

theorem blind_perform (hFetches : Fetches argv a) (h : ∀ client target,
    prepared a env w.clock = .ok (client, target) → (fetch a client target).Blind (leveled a env w)) :
    (perform argv env).Blind w := by
  rw [perform_of_fetches hFetches]
  exact (blind_execute h).bind fun _ _ _ _ => rfl

def EndsSomehow (argv : List String) (env : Environment) (w : World) : Prop :=
  ∃ shown way, w.Shows ((run argv env).run w).2 shown ∧ Ends argv env w way ((run argv env).run w).1 shown

theorem EndsSomehow.intro {way : Way} {r : Except Interruption Nat}
    (hRun : (run argv env).run w = (r, after)) (hShows : w.Shows after shown)
    (hEnds : Ends argv env w way r shown) : EndsSomehow argv env w := by
  refine ⟨shown, way, ?_, ?_⟩
  · rw [hRun]
    exact hShows
  · rw [hRun]
    exact hEnds

theorem endsSomehow_of_misused {e : Arguments.Error}
    (hPerform : (perform argv env).run w = (.error (.failure (.usage e)), after)) (hShows : w.Shows after [])
    (hMisused : Misused argv env w e) (hBlind : (perform argv env).Blind w) : EndsSomehow argv env w := by
  have hReported : after.Shows { after with events := after.events ++ reported (.usage e) }
      [.stderr (Failure.usage e).line, .stderr usage] := ⟨_, rfl, rfl⟩
  exact .intro (run_of_failure hPerform) (hShows.trans hReported) (.misuse hMisused (blind_run hBlind))

theorem endsSomehow_of_failure {f : Failure} {asked : List Request} (hFetches : Fetches argv a)
    (hPerform : (perform argv env).run w = (.error (.failure f), after))
    (hShows : w.Shows after (asked.map .request)) (hUsage : f.isUsage = false)
    (hAsked : asked <+: plannedRequests a env w.clock)
    (hWriter : (∃ path, a.output = some path ∧ w.disk.failure? path = some f) ∨ (perform argv env).Blind w) :
    EndsSomehow argv env w := by
  have hReported : after.Shows { after with events := after.events ++ reported f } [.stderr f.line] :=
    ⟨reported f, rfl, by simp [reported, hUsage, Event.isLog]⟩
  have hRun := run_of_failure hPerform
  rw [hUsage] at hRun
  exact .intro hRun (hShows.trans hReported)
    (.failure hFetches (by rw [hPerform]) hUsage hAsked (hWriter.imp_right blind_run))

section Unprepared

variable {f : Failure} (hFetches : Fetches argv a) (hPrepared : prepared a env w.clock = .error f)

include hFetches hPrepared

theorem run_perform_of_unprepared : (perform argv env).run w = (.error (.failure f), leveled a env w) := by
  have hExecute : (execute a env).run w = (.error (.failure f), leveled a env w) := by
    rw [run_execute, hPrepared]
    rfl
  rw [perform_of_fetches hFetches, Session.run_bind_of_error hExecute]

theorem blind_perform_of_unprepared : (perform argv env).Blind w := by
  apply blind_perform hFetches
  intro client target hSome
  rw [hPrepared] at hSome
  cases hSome

theorem endsSomehow_of_unprepared : EndsSomehow argv env w := by
  have hPerform := run_perform_of_unprepared hFetches hPrepared
  have hBlind := blind_perform_of_unprepared hFetches hPrepared
  have hShows := (asked_leveled a env w).shows
  cases hUsage : f.isUsage with
  | false => exact endsSomehow_of_failure hFetches hPerform hShows hUsage List.nil_prefix (.inr hBlind)
  | true =>
    obtain ⟨e, rfl⟩ := Failure.isUsage_iff.mp hUsage
    exact endsSomehow_of_misused hPerform hShows (.inr ⟨a, hFetches, hPrepared⟩) hBlind

end Unprepared

section Prepared

variable {client : Client} {target : Arguments.Target} (hFetches : Fetches argv a)
  (hPrepared : prepared a env w.clock = .ok (client, target))

include hFetches hPrepared

theorem run_perform_of_prepared : (perform argv env).run w =
    (fetch a client target >>= fun _ => pure 0).run (leveled a env w) := by
  have hExecute : (execute a env).run w = (fetch a client target).run (leveled a env w) := by
    rw [run_execute, hPrepared]
    rfl
  rw [perform_of_fetches hFetches]
  exact Session.run_bind_congr hExecute

theorem blind_perform_of_prepared (h : (fetch a client target).Blind (leveled a env w)) :
    (perform argv env).Blind w := by
  apply blind_perform hFetches
  intro client' target' hSame
  rw [hPrepared] at hSame
  cases hSame
  exact h

theorem blind_perform_of_stopped {i : Interruption}
    (hRun : (gather a client target).run (leveled a env w) = (.error i, after)) : (perform argv env).Blind w := by
  apply blind_perform_of_prepared hFetches hPrepared
  rw [fetch_eq]
  apply ((inquiry_gather a client target).blind _).bind
  intro slice mid hDone
  rw [hRun] at hDone
  cases hDone

theorem endsSomehow_of_fetched {slice : Slice}
    (hRun : (gather a client target).run (leveled a env w) = (.ok slice, after))
    (hAsked : (leveled a env w).Asked after (questions client target))
    (hFetched : Fetched a client target (leveled a env w).replies slice)
    (hDisk : ∀ path, a.output = some path → after.disk.failure? path = none) : EndsSomehow argv env w := by
  have hStart := asked_leveled a env w
  obtain ⟨final, hDeliver, hDelivered⟩ := run_deliver a slice hDisk
  have hFetch : (fetch a client target).run (leveled a env w) = (.ok (), final) := by
    rw [fetch_eq, Session.run_bind_of_ok hRun, hDeliver]
  have hPerform : (perform argv env).run w = (.ok 0, final) := by
    rw [run_perform_of_prepared hFetches hPrepared, Session.run_bind_of_ok hFetch]
    rfl
  apply EndsSomehow.intro (run_of_ok hPerform)
  · exact (hStart.trans hAsked).shows.trans hDelivered
  · rw [hStart.replies] at hFetched
    apply Ends.success hFetches hPrepared hFetched
    intro hOutput
    apply blind_run
    apply blind_perform_of_prepared hFetches hPrepared
    rw [fetch_eq]
    exact ((inquiry_gather a client target).blind _).bind fun slice mid _ => blind_deliver a slice mid hOutput

theorem endsSomehow_of_prepared : EndsSomehow argv env w := by
  have hPlanned := plannedRequests_of_prepared hPrepared
  have hStart := asked_leveled a env w
  have hPerform := run_perform_of_prepared hFetches hPrepared
  rw [fetch_eq] at hPerform
  have hGather := (inquiry_gather a client target).inquires (leveled a env w)
  have hSameDisk := ((inquiry_gather a client target).blind (leveled a env w)).disk_eq
  rcases hRun : (gather a client target).run (leveled a env w) with ⟨r, mid⟩
  rw [hRun] at hGather hSameDisk
  rw [disk_leveled] at hSameDisk
  -- Up to the slice a run only asks; behind it the disk alone decides.
  cases hGather with
  | failed hPrefix hAsked hUsage =>
    have hFetch := Session.run_bind_of_error (f := deliver a) hRun
    rw [Session.run_bind_of_error hFetch] at hPerform
    exact endsSomehow_of_failure hFetches hPerform (hStart.trans hAsked).shows hUsage (hPlanned ▸ hPrefix)
      (.inr (blind_perform_of_stopped hFetches hPrepared hRun))
  | thrown hPrefix hAsked hThrown =>
    have hFetch := Session.run_bind_of_error (f := deliver a) hRun
    rw [Session.run_bind_of_error hFetch] at hPerform
    rw [hStart.replies] at hThrown
    exact .intro (run_of_thrown hPerform) (hStart.trans hAsked).shows
      (.thrown hFetches (hPlanned ▸ hPrefix) hThrown
        (blind_run (blind_perform_of_stopped hFetches hPrepared hRun)))
  | @done slice _ hAsked hFetched =>
    by_cases hFails : ∃ path f, a.output = some path ∧ w.disk.failure? path = some f
    · obtain ⟨path, f, hOutput, hDisk⟩ := hFails
      have hDeliver := run_deliver_of_failure a slice hOutput (hSameDisk ▸ hDisk)
      have hFetch := (Session.run_bind_of_ok hRun).trans hDeliver
      rw [Session.run_bind_of_error hFetch] at hPerform
      exact endsSomehow_of_failure hFetches hPerform (hStart.trans hAsked).shows (isUsage_of_disk hDisk)
        (hPlanned ▸ List.prefix_refl _) (.inl ⟨path, hOutput, hDisk⟩)
    · apply endsSomehow_of_fetched hFetches hPrepared hRun hAsked hFetched
      intro path hOutput
      rw [hSameDisk]
      cases hDisk : w.disk.failure? path with
      | none => rfl
      | some f => exact absurd ⟨path, f, hOutput, hDisk⟩ hFails

end Prepared

theorem endsSomehow (argv : List String) (env : Environment) (w : World) : EndsSomehow argv env w := by
  cases hParse : Arguments.parse argv with
  | error e =>
    have hPerform : perform argv env = Session.fail (.usage e) := by
      rw [perform, hParse]
      rfl
    have hRun : (perform argv env).run w = (.error (.failure (.usage e)), w) := by
      rw [hPerform]
      rfl
    have hBlind : (perform argv env).Blind w := by
      rw [hPerform]
      exact fun _ => rfl
    exact endsSomehow_of_misused hRun (.of_eq rfl) (.inl hParse) hBlind
  | ok a =>
    cases hHelp : a.help with
    | true =>
      have hPerform : perform argv env = Session.stdout usage >>= fun _ => pure 0 := by
        simp only [perform, hParse, Session.ofExcept, pure_bind, hHelp]
        rfl
      have hRun : (perform argv env).run w = (.ok 0, w.showing (.stdout usage)) := by
        rw [hPerform]
        rfl
      have hBlind : (perform argv env).Blind w := by
        rw [hPerform]
        exact fun _ => rfl
      exact .intro (run_of_ok hRun) (.showing rfl) (.help hParse hHelp (blind_run hBlind))
    | false =>
      have hFetches : Fetches argv a := ⟨hParse, hHelp⟩
      cases hPrepared : prepared a env w.clock with
      | error f => exact endsSomehow_of_unprepared hFetches hPrepared
      | ok ready => exact endsSomehow_of_prepared hFetches hPrepared

theorem filterMap_request (asked : List Request) : (asked.map .request).filterMap Event.request? = asked := by
  rw [List.filterMap_map]
  exact List.filterMap_some

theorem filterMap_written (a : Arguments) (slice : Slice) : (written a slice).filterMap Event.request? = [] := by
  unfold written
  cases a.output <;> rfl

theorem Ends.requests {way : Way} {r : Except Interruption Nat} (h : Ends argv env w way r shown) :
    shown.filterMap Event.request? = [] ∨
      ∃ a, Fetches argv a ∧ shown.filterMap Event.request? <+: plannedRequests a env w.clock := by
  cases h with
  | help => exact .inl rfl
  | misuse => exact .inl rfl
  | @success a client target slice hFetches hPrepared =>
    have hLast : [Event.stdout slice.summary.line].filterMap Event.request? = [] := rfl
    refine .inr ⟨a, hFetches, [], ?_⟩
    rw [List.filterMap_append, List.filterMap_append, filterMap_request, filterMap_written, hLast,
      plannedRequests_of_prepared hPrepared, List.append_nil, List.append_nil, List.append_nil]
  | @failure a f asked hFetches hCause hUsage hAsked =>
    have hLast (text : WideText) : [Event.stderr text].filterMap Event.request? = [] := rfl
    refine .inr ⟨a, hFetches, ?_⟩
    rwa [List.filterMap_append, filterMap_request, hLast, List.append_nil]
  | thrown hFetches hAsked =>
    refine .inr ⟨_, hFetches, ?_⟩
    rwa [filterMap_request]

theorem Ends.length_requests_le {way : Way} {r : Except Interruption Nat} (h : Ends argv env w way r shown) :
    (shown.filterMap Event.request?).length ≤ 2 := by
  obtain hNone | ⟨a, -, hAsked⟩ := h.requests
  · rw [hNone]
    exact Nat.zero_le 2
  · exact Nat.le_trans hAsked.length_le (length_plannedRequests_le a env w.clock)

/-- Every run ends in exactly one of the ways, with at most two requests. -/
theorem run_ends (argv : List String) (env : Environment) (w : World) : ∃ shown,
    w.Shows ((run argv env).run w).2 shown ∧ (shown.filterMap Event.request?).length ≤ 2 ∧
      ∃! way, Ends argv env w way ((run argv env).run w).1 shown := by
  obtain ⟨shown, way, hShows, hEnds⟩ := endsSomehow argv env w
  exact ⟨shown, hShows, hEnds.length_requests_le, way, hEnds, fun other hOther => hOther.unique hEnds⟩

end CubeSlice.Command
