import CubeSlice.Proofs.Command.Appending
import CubeSlice.Proofs.Command.Trace
import CubeSlice.Proofs.Logging
import CubeSlice.Proofs.Settings

/-!
# The level over many runs

The level is all that one run leaves to the next. A run changes it before it calls a logger, and whatever happens to
the run later, the level stays. Of what loggers are asked to say, the console shows what the level lets through.
-/

namespace CubeSlice

theorem Settings.exists_level {text : String} {setting : Option Log.Level}
    (h : (some text).mapM readLevel = .ok setting) :
    ∃ level, Log.Level.ofName? text = some level ∧ setting = some level := by
  obtain ⟨level, hRead, hSetting⟩ := Traversal.map_eq_ok_iff.mp h
  unfold readLevel at hRead
  split at hRead
  · rename_i found hName
    cases hRead
    exact ⟨level, hName, hSetting.symm⟩
  · cases hRead

namespace Command

variable {argv : List String} {env : Environment} {w : World} {a : Arguments} {before after : Log.Level}

/-- The level after a run. Only a run that fetches under settings that are accepted changes it: to the level for all
lines if that is asked for, else to the one that is set. -/
inductive LevelAfter (argv : List String) (env : Environment) (before : Log.Level) : Log.Level → Prop
  | verbose {a : Arguments} {settings : Settings} (hFetches : Fetches argv a) (hLoad : Settings.load env = .ok settings)
    (hVerbose : a.verbose = true) : LevelAfter argv env before .debug
  | setting {a : Arguments} {settings : Settings} {level : Log.Level} (hFetches : Fetches argv a)
    (hLoad : Settings.load env = .ok settings) (hQuiet : a.verbose = false)
    (hSet : Settings.lookup env .logLevel = some level.name) : LevelAfter argv env before level
  | unset {a : Arguments} {settings : Settings} (hFetches : Fetches argv a) (hLoad : Settings.load env = .ok settings)
    (hQuiet : a.verbose = false) (hUnset : Settings.lookup env .logLevel = none) : LevelAfter argv env before before
  | refused {a : Arguments} {e : Settings.Error} (hFetches : Fetches argv a) (hLoad : Settings.load env = .error e) :
    LevelAfter argv env before before
  | idle (hNone : ∀ a, ¬ Fetches argv a) : LevelAfter argv env before before

theorem Fetches.unique {b : Arguments} (h : Fetches argv a) (h' : Fetches argv b) : a = b :=
  Except.ok.inj (h.1.symm.trans h'.1)

theorem LevelAfter.unique {other : Log.Level} (h : LevelAfter argv env before after)
    (h' : LevelAfter argv env before other) : after = other := by
  have hLoads {settings : Settings} {e : Settings.Error} (hLoad : Settings.load env = .ok settings)
      (hRefused : Settings.load env = .error e) : False := by
    rw [hLoad] at hRefused
    cases hRefused
  have hVerbosity {a b : Arguments} (ha : Fetches argv a) (hb : Fetches argv b) (hVerbose : a.verbose = true)
      (hQuiet : b.verbose = false) : False := by
    rw [ha.unique hb, hQuiet] at hVerbose
    cases hVerbose
  have hNames {level level' : Log.Level} (hName : level.name = level'.name) : level = level' := by
    have hSame := congrArg Log.Level.ofName? hName
    rwa [Log.Level.ofName?_name, Log.Level.ofName?_name, Option.some.injEq] at hSame
  cases h with
  | verbose hFetches hLoad hVerbose =>
    cases h' with
    | verbose => rfl
    | setting hOther _ hQuiet => exact (hVerbosity hFetches hOther hVerbose hQuiet).elim
    | unset hOther _ hQuiet => exact (hVerbosity hFetches hOther hVerbose hQuiet).elim
    | refused _ hRefused => exact (hLoads hLoad hRefused).elim
    | idle hNone => exact absurd hFetches (hNone _)
  | setting hFetches hLoad hQuiet hSet =>
    cases h' with
    | verbose hOther _ hVerbose => exact (hVerbosity hOther hFetches hVerbose hQuiet).elim
    | setting _ _ _ hSet' => exact hNames (Option.some.inj (hSet.symm.trans hSet'))
    | unset _ _ _ hUnset =>
      rw [hSet] at hUnset
      cases hUnset
    | refused _ hRefused => exact (hLoads hLoad hRefused).elim
    | idle hNone => exact absurd hFetches (hNone _)
  | unset hFetches hLoad hQuiet hUnset =>
    cases h' with
    | verbose hOther _ hVerbose => exact (hVerbosity hOther hFetches hVerbose hQuiet).elim
    | setting _ _ _ hSet =>
      rw [hSet] at hUnset
      cases hUnset
    | unset => rfl
    | refused => rfl
    | idle => rfl
  | refused hFetches hRefused =>
    cases h' with
    | verbose _ hLoad => exact (hLoads hLoad hRefused).elim
    | setting _ hLoad => exact (hLoads hLoad hRefused).elim
    | unset => rfl
    | refused => rfl
    | idle => rfl
  | idle hNone =>
    cases h' with
    | verbose hFetches => exact absurd hFetches (hNone _)
    | setting hFetches => exact absurd hFetches (hNone _)
    | unset => rfl
    | refused => rfl
    | idle => rfl

theorem levelAfter_leveled (hFetches : Fetches argv a) (env : Environment) (w : World) :
    LevelAfter argv env w.level (leveled a env w).level := by
  cases hLoad : Settings.load env with
  | error e =>
    rw [leveled, hLoad]
    exact .refused hFetches hLoad
  | ok settings =>
    have hSetting := (Settings.load_eq_ok hLoad).2.2.2
    have hLevel : (leveled a env w).level = (levelFor a settings).getD w.level := by
      rw [leveled_of_load hLoad]
      rfl
    rw [hLevel]
    cases hVerbose : a.verbose with
    | true =>
      rw [levelFor, if_pos hVerbose]
      exact .verbose hFetches hLoad hVerbose
    | false =>
      rw [levelFor, hVerbose, if_neg Bool.false_ne_true]
      cases hText : Settings.lookup env .logLevel with
      | none =>
        rw [hText] at hSetting
        rw [← Except.ok.inj hSetting]
        exact .unset hFetches hLoad hVerbose hText
      | some text =>
        rw [hText] at hSetting
        obtain ⟨level, hName, hSome⟩ := Settings.exists_level hSetting
        rw [hSome]
        exact .setting hFetches hLoad hVerbose (Log.Level.name_of_ofName? hName ▸ hText)

theorem logged_reported (level : Log.Level) (f : Failure) : Logged level (reported f) := by
  unfold reported
  split
  · exact .stderr (.stderr .nil)
  · exact .stderr .nil

theorem logs_run_of_perform {v after : World} {r : Except Interruption Nat}
    (hPerform : (perform argv env).run w = (r, after)) (h : v.Logs after) : v.Logs ((run argv env).run w).2 := by
  rcases r with (f | value) | code
  · rw [run_of_failure hPerform]
    exact h.trans (.adding (logged_reported after.level f))
  · rwa [run_of_thrown hPerform]
  · rwa [run_of_ok hPerform]

theorem logs_run_of_fetches (hFetches : Fetches argv a) (env : Environment) (w : World) :
    (leveled a env w).Logs ((run argv env).run w).2 := by
  cases hPrepared : prepared a env w.clock with
  | error f => exact logs_run_of_perform (run_perform_of_unprepared hFetches hPrepared) (.refl _)
  | ok ready =>
    obtain ⟨client, target⟩ := ready
    apply logs_run_of_perform (run_perform_of_prepared hFetches hPrepared)
    exact ((logs_fetch a client target).bind fun _ => .pure 0) (leveled a env w)

theorem logs_run_of_not_fetches (h : ∀ a, ¬ Fetches argv a) (env : Environment) (w : World) :
    w.Logs ((run argv env).run w).2 := by
  cases hParse : Arguments.parse argv with
  | error e =>
    have hPerform : (perform argv env).run w = (.error (.failure (.usage e)), w) := by
      rw [perform, hParse]
      rfl
    exact logs_run_of_perform hPerform (.refl w)
  | ok a =>
    have hHelp : a.help = true := by
      rw [← Bool.not_eq_false]
      exact fun hOff => h a ⟨hParse, hOff⟩
    have hPerform : (perform argv env).run w = (.ok 0, w.showing (.stdout usage)) := by
      rw [perform, hParse, Session.run_ofExcept_ok_bind, if_pos hHelp]
      rfl
    exact logs_run_of_perform hPerform (.adding (.stdout .nil))

theorem levelAfter_run (argv : List String) (env : Environment) (w : World) :
    LevelAfter argv env w.level ((run argv env).run w).2.level ∧
      Logged ((run argv env).run w).2.level (trace argv env w) := by
  by_cases hSome : ∃ a, Fetches argv a
  · obtain ⟨a, hFetches⟩ := hSome
    obtain ⟨hLevel, t, hEvents, hLogged⟩ := logs_run_of_fetches hFetches env w
    rw [events_leveled] at hEvents
    rw [hLevel, trace_eq hEvents]
    exact ⟨levelAfter_leveled hFetches env w, hLogged⟩
  · have hNone := not_exists.mp hSome
    obtain ⟨hLevel, t, hEvents, hLogged⟩ := logs_run_of_not_fetches hNone env w
    rw [hLevel, trace_eq hEvents]
    exact ⟨.idle hNone, hLogged⟩

inductive Occasion where
  | run (argv : List String) (env : Environment) (clock : Number) (replies : List Reply) (disk : Disk)
  | call (call : Log.Call)

namespace Occasion

def world (w : World) : Occasion → World
  | run _ _ clock replies disk => { w with clock := clock, replies := replies, disk := disk }
  | call _ => w

def pass (w : World) : Occasion → World
  | run argv env clock replies disk => ((Command.run argv env).run (world w (run argv env clock replies disk))).2
  | call c => ((Session.logCall c).run w).2

def events (w : World) (o : Occasion) : List Event := (o.pass w).events.drop w.events.length

end Occasion

/-- What several occasions make of the level, each with the level after it and with what is new: calls of loggers and
what the console shows of them at that level, in order. -/
inductive Chronicle : Log.Level → List Occasion → List (Log.Level × List Event) → Prop
  | nil (level : Log.Level) : Chronicle level [] []
  | run {before after : Log.Level} {argv : List String} {env : Environment} {clock : Number} {replies : List Reply}
    {disk : Disk} {shown : List Event} {rest : List Occasion} {later : List (Log.Level × List Event)}
    (hLevel : LevelAfter argv env before after) (hLogged : Logged after shown) (hRest : Chronicle after rest later) :
    Chronicle before (.run argv env clock replies disk :: rest) ((after, shown) :: later)
  | call {level : Log.Level} {call : Log.Call} {echo : List Event} {rest : List Occasion}
    {later : List (Log.Level × List Event)} (hEcho : Log.Echo level call echo) (hRest : Chronicle level rest later) :
    Chronicle level (.call call :: rest) ((level, .call call :: echo) :: later)

/-- The levels after several occasions, and what each of them adds. -/
def record (w : World) : List Occasion → List (Log.Level × List Event)
  | [] => []
  | o :: rest => ((o.pass w).level, o.events w) :: record (o.pass w) rest

theorem Chronicle.levels_unique {level : Log.Level} {occasions : List Occasion}
    {entries others : List (Log.Level × List Event)} (h : Chronicle level occasions entries)
    (h' : Chronicle level occasions others) : others.map Prod.fst = entries.map Prod.fst := by
  induction h generalizing others with
  | nil => cases h'; rfl
  | run hLevel _ _ ih =>
    cases h' with
    | run hLevel' _ hRest' =>
      obtain rfl := hLevel.unique hLevel'
      exact congrArg (List.cons _) (ih hRest')
  | call _ _ ih =>
    cases h' with
    | call _ hRest' => exact congrArg (List.cons _) (ih hRest')

theorem chronicle_of_record (w : World) (occasions : List Occasion) :
    Chronicle w.level occasions (record w occasions) := by
  induction occasions generalizing w with
  | nil => exact .nil w.level
  | cons o rest ih =>
    cases o with
    | call call =>
      obtain ⟨echo, hEcho, hShown⟩ := w.level.exists_echo call
      have hRun := Session.run_logCall call w
      have hLevel : ((Occasion.call call).pass w).level = w.level := by
        rw [Occasion.pass, hRun]
      have hEvents : (Occasion.call call).events w = .call call :: echo := by
        rw [Occasion.events, Occasion.pass, hRun, List.drop_left, hShown]
      have hRest := ih ((Occasion.call call).pass w)
      rw [hLevel] at hRest
      rw [record, hLevel, hEvents]
      exact .call hEcho hRest
    | run argv env clock replies disk =>
      obtain ⟨hLevel, hLogged⟩ := levelAfter_run argv env (Occasion.world w (.run argv env clock replies disk))
      exact .run hLevel hLogged (ih _)

/-- Whatever runs a process makes and whatever is logged in between, the levels and the console are as the chronicle
says, and it leaves no choice of levels. -/
theorem chronicle_record (w : World) (occasions : List Occasion) :
    Chronicle w.level occasions (record w occasions) ∧
    ∀ entries, Chronicle w.level occasions entries → entries.map Prod.fst = (record w occasions).map Prod.fst :=
  ⟨chronicle_of_record w occasions, fun _ h => (chronicle_of_record w occasions).levels_unique h⟩

/-- A run that is refused, a call, the same run with all lines asked for and without a reply, and the same call. -/
def repeatedOccasions : List Occasion :=
  [.run plainArgv [] Number.zero [.response (Number.ofNat 404) "Not Found" ""] .ready,
    .call ⟨.info, "note", [.string "again"]⟩,
    .run (plainArgv ++ ["--verbose"]) [] Number.zero [] .ready,
    .call ⟨.info, "note", [.string "again"]⟩]

def consoleLine? : Event → Option (Log.Method × List String)
  | .log line => some (line.method, line.args.map fun v => v.display.toText)
  | _ => none

theorem chronicle_record_repeated : Chronicle .warn repeatedOccasions (record quietWorld repeatedOccasions) ∧
    (record quietWorld repeatedOccasions).map (fun (level, events) => (level, events.filterMap consoleLine?)) =
      [(.warn, [(.warn, ["[client]", "GET http://a/g -> 404"])]),
        (.warn, []),
        (.debug, [(.debug, ["[client]", "GET http://a/g"])]),
        (.debug, [(.info, ["[note]", "again"])])] :=
  ⟨(chronicle_record quietWorld repeatedOccasions).1, by decide +kernel⟩

end Command

end CubeSlice
