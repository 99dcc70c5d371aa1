import CubeSlice.Session

/-!
# What sessions do

How sessions run one after the other, and what can be told of a session apart from its result: what it
shows, whether it looks at the disk, and which replies it takes. An inquiry asks the service questions
that are settled beforehand, one reply for each, and does nothing else but log.
-/

namespace CubeSlice

def Event.isLog : Event → Bool
  | .call _ => true
  | .log _ => true
  | _ => false

def Event.request? : Event → Option Request
  | .request r => some r
  | _ => none

def Log.Level.shown (level : Log.Level) (call : Log.Call) : List Event :=
  .call call :: if Log.heard level call.method then [.log call.line] else []

theorem Log.Level.filter_shown (level : Log.Level) (call : Log.Call) :
    (level.shown call).filter (fun e => !e.isLog) = [] := by
  unfold shown
  split <;> rfl

def Failure.isUsage : Failure → Bool
  | .usage _ => true
  | _ => false

theorem Failure.isUsage_iff {e : Failure} : e.isUsage = true ↔ ∃ u, e = .usage u := by
  cases e <;> simp [isUsage]

def World.onDisk (w : World) (disk : Disk) : World := { w with disk := disk }

def World.showing (w : World) (e : Event) : World := { w with events := w.events ++ [e] }

/-- From a world to a later one these events are added, what is logged apart. -/
def World.Shows (w after : World) (shown : List Event) : Prop :=
  ∃ trace, after.events = w.events ++ trace ∧ trace.filter (fun e => !e.isLog) = shown

namespace World.Shows

variable {w mid after : World} {first rest : List Event}

theorem of_eq (h : after.events = w.events) : w.Shows after [] := ⟨[], by rw [h, List.append_nil], rfl⟩

theorem showing {e : Event} (h : e.isLog = false) : w.Shows (w.showing e) [e] := ⟨[e], rfl, by simp [h]⟩

theorem trans (hFirst : w.Shows mid first) (hRest : mid.Shows after rest) : w.Shows after (first ++ rest) := by
  obtain ⟨trace, hMid, rfl⟩ := hFirst
  obtain ⟨more, hAfter, rfl⟩ := hRest
  refine ⟨trace ++ more, ?_, List.filter_append _ _⟩
  rw [hAfter, hMid, List.append_assoc]

theorem unique (h : w.Shows after first) (h' : w.Shows after rest) : first = rest := by
  obtain ⟨trace, hAfter, rfl⟩ := h
  obtain ⟨trace', hAfter', rfl⟩ := h'
  rw [hAfter, List.append_cancel_left_eq] at hAfter'
  rw [hAfter']

end World.Shows

namespace Session

variable {α β : Type} {s : Session α} {f : α → Session β} {w after : World}

theorem run_bind (s : Session α) (f : α → Session β) (w : World) :
    (s >>= f).run w = ExceptT.bindCont f (s.run w).1 (s.run w).2 := rfl

theorem run_bind_of_ok {a : α} (h : s.run w = (.ok a, after)) : (s >>= f).run w = (f a).run after := by
  rw [run_bind, h]
  rfl

theorem run_bind_of_error {i : Interruption} (h : s.run w = (.error i, after)) :
    (s >>= f).run w = (.error i, after) := by
  rw [run_bind, h]
  rfl

theorem run_bind_congr {s' : Session α} {w' : World} (h : s.run w = s'.run w') :
    (s >>= f).run w = (s' >>= f).run w' := by
  rw [run_bind, run_bind, h]

theorem run_tryCatch_of_ok {g : Interruption → Session α} {a : α} (h : s.run w = (.ok a, after)) :
    (tryCatch s g).run w = (.ok a, after) := by
  have hState : s w = (.ok a, after) := h
  change ExceptT.tryCatch s g w = _
  simp only [ExceptT.tryCatch, ExceptT.mk, bind, StateT.bind, hState]
  rfl

theorem run_tryCatch_of_error {g : Interruption → Session α} {i : Interruption}
    (h : s.run w = (.error i, after)) : (tryCatch s g).run w = (g i).run after := by
  have hState : s w = (.error i, after) := h
  change ExceptT.tryCatch s g w = _
  simp only [ExceptT.tryCatch, ExceptT.mk, bind, StateT.bind, hState]
  rfl

theorem run_tryCatch_congr {s' : Session α} {g : Interruption → Session α} (h : s.run w = s'.run w) :
    (tryCatch s g).run w = (tryCatch s' g).run w := by
  rcases hRun : s.run w with ⟨i | a, after⟩
  · rw [run_tryCatch_of_error hRun, run_tryCatch_of_error (h.symm.trans hRun)]
  · rw [run_tryCatch_of_ok hRun, run_tryCatch_of_ok (h.symm.trans hRun)]

theorem run_ofExcept_ok_bind {ε : Type} (wrap : ε → Failure) (a : α) (f : α → Session β) (w : World) :
    (ofExcept wrap (.ok a) >>= f).run w = (f a).run w := rfl

theorem run_now_bind (f : Number → Session β) (w : World) : (now >>= f).run w = (f w.clock).run w := rfl

theorem run_logCall (call : Log.Call) (w : World) :
    (logCall call).run w = (.ok (), { w with events := w.events ++ w.level.shown call }) := by
  have hGet : (logCall call).run w =
      (if Log.heard w.level call.method then emit (.log call.line) else pure ()).run (w.showing (.call call)) := rfl
  rw [hGet, Log.Level.shown]
  split
  · exact congrArg (fun events => (Except.ok (), { w with events })) (List.append_assoc ..)
  · rfl

theorem run_log (method : Log.Method) (scope text : String) (w : World) : (log method scope text).run w =
    (.ok (), { w with events := w.events ++ w.level.shown ⟨method, scope, [.string text]⟩ }) :=
  run_logCall _ w

theorem run_writeSlice (path : String) (slice : Slice) (format : OutputFormat) (w : World) :
    (writeSlice path slice format).run w =
      match w.disk.failure? path with
      | some e => (.error (.failure e), w)
      | none => (.ok (), w.showing (.write path slice format)) := by
  have hGet : (writeSlice path slice format).run w =
      (match w.disk.failure? path with
        | some e => fail e
        | none => emit (.write path slice format) : Session Unit).run w := rfl
  rw [hGet]
  cases w.disk.failure? path <;> rfl

def sent (r : Request) (w : World) : World :=
  { w.showing (.request r) with replies := w.replies.tail }

theorem run_send (r : Request) (w : World) : (send r).run w =
    (match w.replies.head? with
      | none => .error (.failure (.foreign "Error" "no response left"))
      | some (.response status statusText body) => .ok (status, statusText, body)
      | some (.failure name message) => .error (.failure (.foreign name message))
      | some (.thrown v) => .error (.thrown v), sent r w) := by
  obtain ⟨level, clock, replies, disk, events⟩ := w
  cases replies with
  | nil => rfl
  | cons reply rest => cases reply <;> rfl

/-- A session that does not look at the disk: with another one it runs alike. -/
def Blind (s : Session α) (w : World) : Prop :=
  ∀ disk, s.run (w.onDisk disk) = ((s.run w).1, (s.run w).2.onDisk disk)

theorem Blind.bind (hFirst : s.Blind w) (hRest : ∀ a after, s.run w = (.ok a, after) → (f a).Blind after) :
    (s >>= f).Blind w := by
  intro disk
  have hOther := hFirst disk
  rcases hRun : s.run w with ⟨i | a, after⟩
  · rw [hRun] at hOther
    rw [run_bind_of_error hRun, run_bind_of_error hOther]
  · rw [hRun] at hOther
    rw [run_bind_of_ok hRun, run_bind_of_ok hOther, hRest a after hRun disk]

theorem Blind.tryCatch {g : Interruption → Session α} (h : s.Blind w)
    (hRest : ∀ i after, s.run w = (.error i, after) → (g i).Blind after) : (tryCatch s g).Blind w := by
  intro disk
  have hOther := h disk
  rcases hRun : s.run w with ⟨i | a, after⟩
  · rw [hRun] at hOther
    rw [run_tryCatch_of_error hRun, run_tryCatch_of_error hOther, hRest i after hRun disk]
  · rw [hRun] at hOther
    rw [run_tryCatch_of_ok hRun, run_tryCatch_of_ok hOther]

theorem Blind.disk_eq (h : s.Blind w) : (s.run w).2.disk = w.disk :=
  congrArg (fun r => r.2.disk) (h w.disk)

end Session

/-- What an inquiry has done when it ends: some questions have been asked, each has taken a reply, and
nothing but what is logged is new otherwise. -/
structure World.Asked (w after : World) (asked : List Request) : Prop where
  shows : w.Shows after (asked.map .request)
  replies : after.replies = w.replies.drop asked.length

namespace World.Asked

variable {w mid after : World} {first rest : List Request}

theorem of_eq (hEvents : after.events = w.events) (hReplies : after.replies = w.replies) : w.Asked after [] :=
  ⟨.of_eq hEvents, hReplies⟩

theorem trans (hFirst : w.Asked mid first) (hRest : mid.Asked after rest) : w.Asked after (first ++ rest) where
  shows := by
    rw [List.map_append]
    exact hFirst.shows.trans hRest.shows
  replies := by
    rw [hRest.replies, hFirst.replies, List.drop_drop, List.length_append]

end World.Asked

/-- How an inquiry ends that asks the given questions in their order: with a result that follows from the
replies, after all questions; with a failure that is no fault of the arguments; or with the value that was
thrown in reply to the last question asked. -/
inductive Inquires {α : Type} (questions : List Request) (follows : List Reply → α → Prop) (w : World) :
    Except Interruption α × World → Prop
  | done {a : α} {after : World} (hAsked : w.Asked after questions) (hFollows : follows w.replies a) :
    Inquires questions follows w (.ok a, after)
  | failed {e : Failure} {after : World} {asked : List Request} (hPrefix : asked <+: questions)
    (hAsked : w.Asked after asked) (hUsage : e.isUsage = false) :
    Inquires questions follows w (.error (.failure e), after)
  | thrown {v : Json.Value} {after : World} {asked : List Request} {last : Request}
    (hPrefix : asked ++ [last] <+: questions) (hAsked : w.Asked after (asked ++ [last]))
    (hThrown : w.replies[asked.length]? = some (.thrown v)) :
    Inquires questions follows w (.error (.thrown v), after)

theorem Inquires.after {α : Type} {questions more : List Request} {rest follows : List Reply → α → Prop}
    {w mid : World} {r : Except Interruption α × World} (h : Inquires more rest mid r)
    (hAsked : w.Asked mid questions) (hFollows : ∀ a, rest mid.replies a → follows w.replies a) :
    Inquires (questions ++ more) follows w r := by
  cases h with
  | done hMore hRest => exact .done (hAsked.trans hMore) (hFollows _ hRest)
  | failed hPrefix hMore hUsage =>
    exact .failed ((List.prefix_append_right_inj _).mpr hPrefix) (hAsked.trans hMore) hUsage
  | thrown hPrefix hMore hThrown =>
    apply Inquires.thrown
    · rw [List.append_assoc]
      exact (List.prefix_append_right_inj _).mpr hPrefix
    · rw [List.append_assoc]
      exact hAsked.trans hMore
    · rwa [hAsked.replies, List.getElem?_drop, ← List.length_append] at hThrown

/-- A session that asks these questions, with results that follow from the replies. -/
structure Session.Inquiry {α : Type} (s : Session α) (questions : List Request)
    (follows : List Reply → α → Prop) : Prop where
  inquires : ∀ w, Inquires questions follows w (s.run w)
  blind : ∀ w, s.Blind w

theorem Session.exists_run_log (method : Log.Method) (scope text : String) (w : World) :
    ∃ after, (log method scope text).run w = (.ok (), after) ∧ w.Asked after [] :=
  ⟨_, run_log method scope text w, ⟨_, rfl, w.level.filter_shown _⟩, rfl⟩

namespace Session.Inquiry

variable {α β : Type} {s : Session α} {f : α → Session β} {questions more : List Request}

theorem bind {first : List Reply → α → Prop} (rest : α → List Reply → β → Prop)
    {follows : List Reply → β → Prop} (hs : s.Inquiry questions first) (hf : ∀ a, (f a).Inquiry more (rest a))
    (hFollows : ∀ replies a b, first replies a → rest a (replies.drop questions.length) b → follows replies b) :
    (s >>= f).Inquiry (questions ++ more) follows where
  inquires := by
    intro w
    have hFirst := hs.inquires w
    rcases hRun : s.run w with ⟨r, mid⟩
    rw [hRun] at hFirst
    cases hFirst with
    | @done a _ hAsked hResult =>
      rw [run_bind_of_ok hRun]
      apply ((hf a).inquires mid).after hAsked
      intro b hRest
      rw [hAsked.replies] at hRest
      exact hFollows w.replies a b hResult hRest
    | failed hPrefix hAsked hUsage =>
      rw [run_bind_of_error hRun]
      exact .failed (hPrefix.trans (List.prefix_append _ _)) hAsked hUsage
    | thrown hPrefix hAsked hThrown =>
      rw [run_bind_of_error hRun]
      exact .thrown (hPrefix.trans (List.prefix_append _ _)) hAsked hThrown
  blind := by
    intro w
    exact (hs.blind w).bind fun a after _ => (hf a).blind after

theorem pure {a : α} {follows : List Reply → α → Prop} (h : ∀ replies, follows replies a) :
    (pure a : Session α).Inquiry [] follows where
  inquires w := .done (.of_eq rfl rfl) (h w.replies)
  blind _ _ := rfl

theorem fail {e : Failure} (hUsage : e.isUsage = false) (questions : List Request)
    (follows : List Reply → α → Prop) : (fail e : Session α).Inquiry questions follows where
  inquires _ := .failed List.nil_prefix (.of_eq rfl rfl) hUsage
  blind _ _ := rfl

theorem ofExcept {ε : Type} {wrap : ε → Failure} {r : Except ε α} {follows : List Reply → α → Prop}
    (hUsage : ∀ e, (wrap e).isUsage = false) (h : ∀ a, r = .ok a → ∀ replies, follows replies a) :
    (ofExcept wrap r).Inquiry [] follows := by
  cases r with
  | error e => exact fail (hUsage e) [] follows
  | ok a => exact pure (h a rfl)

theorem ofExcept_bind {ε : Type} {wrap : ε → Failure} {r : Except ε α} {follows : List Reply → β → Prop}
    (hUsage : ∀ e, (wrap e).isUsage = false) (h : ∀ a, r = .ok a → (f a).Inquiry questions follows) :
    (Session.ofExcept wrap r >>= f).Inquiry questions follows := by
  cases r with
  | error e => exact fail (hUsage e) questions follows
  | ok a =>
    have hPure : Session.ofExcept wrap (.ok a) >>= f = f a := pure_bind a f
    rw [hPure]
    exact h a rfl

theorem log (method : Log.Method) (scope text : String) : (log method scope text).Inquiry [] fun _ _ => True where
  inquires := by
    intro w
    obtain ⟨after, hRun, hAsked⟩ := exists_run_log method scope text w
    rw [hRun]
    exact .done hAsked trivial
  blind := by
    intro w disk
    rw [run_log, run_log]
    rfl

theorem log_bind {method : Log.Method} {scope text : String} {f : Unit → Session β}
    {follows : List Reply → β → Prop} (h : (f ()).Inquiry questions follows) :
    (Session.log method scope text >>= f).Inquiry questions follows :=
  .bind (fun _ => follows) (log method scope text) (fun _ => h) fun _ _ _ _ hFollows => hFollows

theorem send (r : Request) : (send r).Inquiry [r] fun replies answer =>
    replies.head? = some (.response answer.1 answer.2.1 answer.2.2) where
  inquires := by
    intro w
    have hAsked : w.Asked (sent r w) [r] := ⟨⟨[.request r], rfl, rfl⟩, List.drop_one.symm⟩
    rw [run_send]
    split
    · exact .failed (List.prefix_refl _) hAsked rfl
    · rename_i hReply
      exact .done hAsked hReply
    · exact .failed (List.prefix_refl _) hAsked rfl
    · rename_i hReply
      apply Inquires.thrown (List.prefix_refl _ : [] ++ [r] <+: [r]) hAsked
      rw [List.head?_eq_getElem?] at hReply
      exact hReply
  blind := by
    intro w disk
    rw [run_send, run_send]
    rfl

end Session.Inquiry

end CubeSlice
