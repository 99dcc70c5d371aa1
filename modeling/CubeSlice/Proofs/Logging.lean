import CubeSlice.Command.Run
import CubeSlice.Proofs.Session

/-!
# What is logged

A trace holds every call of a logger, and right behind it what the console shows of it, which is the line if the level
lets it through and nothing otherwise. A request is announced before it is sent, and a file is told of once it is
written. Whatever a run does after its level is settled keeps the level and leaves such a trace.
-/

namespace CubeSlice

/-- What the console shows of a call: a line with the scope in brackets in front, if the rank of the method is at most
the rank of the level. -/
inductive Log.Echo (level : Log.Level) (call : Log.Call) : List Event → Prop
  | heard (hRank : call.method.level.rank ≤ level.rank) :
    Echo level call [.log ⟨call.method, .string ("[" ++ call.scope ++ "]") :: call.args⟩]
  | kept (hRank : level.rank < call.method.level.rank) : Echo level call []

theorem Log.Level.exists_echo (level : Log.Level) (call : Log.Call) :
    ∃ echo, Log.Echo level call echo ∧ level.shown call = .call call :: echo := by
  unfold shown heard
  by_cases hRank : call.method.level.rank ≤ level.rank
  · rw [if_pos (decide_eq_true hRank)]
    exact ⟨_, .heard hRank, rfl⟩
  · rw [if_neg (by simpa using hRank)]
    exact ⟨_, .kept (Nat.lt_of_not_le hRank), rfl⟩

inductive Logged (level : Log.Level) : List Event → Prop
  | nil : Logged level []
  | call {call : Log.Call} {echo rest : List Event} (hEcho : Log.Echo level call echo) (hRest : Logged level rest) :
    Logged level (.call call :: (echo ++ rest))
  | request {r : Request} {call : Log.Call} {echo rest : List Event} (hGet : r.method = "GET")
    (hCall : call = ⟨.debug, "client", [.string (.ofString ("GET " ++ r.url))]⟩) (hEcho : Log.Echo level call echo)
    (hRest : Logged level rest) : Logged level (.call call :: (echo ++ .request r :: rest))
  | write {path : String} {slice : Slice} {format : OutputFormat} {call : Log.Call} {echo rest : List Event}
    (hCall : call = ⟨.info, "cli", [.string (.ofString ("wrote " ++ format.name ++ " slice to " ++ path))]⟩)
    (hEcho : Log.Echo level call echo) (hRest : Logged level rest) :
    Logged level (.write path slice format :: .call call :: (echo ++ rest))
  | stdout {text : String} {rest : List Event} (hRest : Logged level rest) : Logged level (.stdout text :: rest)
  | stderr {text : WideText} {rest : List Event} (hRest : Logged level rest) : Logged level (.stderr text :: rest)

namespace Logged

variable {level : Log.Level} {t u : List Event}

theorem append (h : Logged level t) (h' : Logged level u) : Logged level (t ++ u) := by
  induction h with
  | nil => exact h'
  | call hEcho _ ih =>
    rw [List.cons_append, List.append_assoc]
    exact .call hEcho ih
  | request hGet hCall hEcho _ ih =>
    rw [List.cons_append, List.append_assoc]
    exact .request hGet hCall hEcho ih
  | write hCall hEcho _ ih =>
    rw [List.cons_append, List.cons_append, List.append_assoc]
    exact .write hCall hEcho ih
  | stdout _ ih => exact .stdout ih
  | stderr _ ih => exact .stderr ih

theorem shown (level : Log.Level) (call : Log.Call) : Logged level (level.shown call) := by
  obtain ⟨echo, hEcho, hShown⟩ := level.exists_echo call
  rw [hShown, ← List.append_nil echo]
  exact .call hEcho .nil

theorem announced (level : Log.Level) {r : Request} (hGet : r.method = "GET") :
    Logged level (level.shown ⟨.debug, "client", [.string (.ofString ("GET " ++ r.url))]⟩ ++ [.request r]) := by
  obtain ⟨echo, hEcho, hShown⟩ :=
    level.exists_echo ⟨.debug, "client", [.string (.ofString ("GET " ++ r.url))]⟩
  rw [hShown]
  exact .request hGet rfl hEcho .nil

theorem written (level : Log.Level) (path : String) (slice : Slice) (format : OutputFormat) :
    Logged level (.write path slice format ::
      level.shown ⟨.info, "cli", [.string (.ofString ("wrote " ++ format.name ++ " slice to " ++ path))]⟩) := by
  obtain ⟨echo, hEcho, hShown⟩ :=
    level.exists_echo ⟨.info, "cli", [.string (.ofString ("wrote " ++ format.name ++ " slice to " ++ path))]⟩
  rw [hShown, ← List.append_nil echo]
  exact .write rfl hEcho .nil

end Logged

/-- From one world to a later one the level stays, and what is new is logged at it. -/
structure World.Logs (w after : World) : Prop where
  level : after.level = w.level
  trace : ∃ t, after.events = w.events ++ t ∧ Logged w.level t

namespace World.Logs

variable {w mid after : World}

theorem refl (w : World) : w.Logs w := ⟨rfl, [], (List.append_nil _).symm, .nil⟩

theorem trans (hFirst : w.Logs mid) (hRest : mid.Logs after) : w.Logs after := by
  obtain ⟨t, hMid, hLogged⟩ := hFirst.trace
  obtain ⟨u, hAfter, hLogged'⟩ := hRest.trace
  rw [hFirst.level] at hLogged'
  refine ⟨hRest.level.trans hFirst.level, t ++ u, ?_, hLogged.append hLogged'⟩
  rw [hAfter, hMid, List.append_assoc]

theorem adding {t : List Event} (h : Logged w.level t) : w.Logs { w with events := w.events ++ t } := ⟨rfl, t, rfl, h⟩

end World.Logs

namespace Session

variable {α β : Type} {s : Session α} {f : α → Session β}

/-- A session that keeps the level, with everything logged at it. -/
def Logs (s : Session α) : Prop := ∀ w : World, w.Logs (s.run w).2

namespace Logs

theorem pure (a : α) : (pure a : Session α).Logs := World.Logs.refl

theorem fail (f : Failure) : (fail f : Session α).Logs := World.Logs.refl

theorem ofExcept {ε : Type} (wrap : ε → Failure) (r : Except ε α) : (ofExcept wrap r).Logs := by
  cases r with
  | error e => exact fail (wrap e)
  | ok a => exact pure a

theorem bind (hs : s.Logs) (hf : ∀ a, (f a).Logs) : (s >>= f).Logs := by
  intro w
  have hFirst := hs w
  rcases hRun : s.run w with ⟨i | a, mid⟩
  · rw [run_bind_of_error hRun]
    rwa [hRun] at hFirst
  · rw [run_bind_of_ok hRun]
    rw [hRun] at hFirst
    exact hFirst.trans (hf a mid)

theorem log (method : Log.Method) (scope text : String) : (log method scope text).Logs := by
  intro w
  rw [run_log]
  exact .adding (.shown w.level _)

theorem stdout (text : String) : (stdout text).Logs := fun _ => .adding (.stdout .nil)

theorem announced (r : Request) (hGet : r.method = "GET") :
    (Session.log .debug "client" ("GET " ++ r.url) >>= fun _ => send r).Logs := by
  intro w
  rw [run_bind_of_ok (run_log ..), run_send]
  refine ⟨rfl, _, ?_, .announced w.level hGet⟩
  rw [← List.append_assoc]
  rfl

theorem written (path : String) (slice : Slice) (format : OutputFormat) :
    (writeSlice path slice format >>= fun _ =>
      Session.log .info "cli" ("wrote " ++ format.name ++ " slice to " ++ path)).Logs := by
  intro w
  have hWrite := run_writeSlice path slice format w
  cases hDisk : w.disk.failure? path with
  | some e =>
    rw [hDisk] at hWrite
    rw [run_bind_of_error hWrite]
    exact .refl w
  | none =>
    rw [hDisk] at hWrite
    rw [run_bind_of_ok hWrite, run_log]
    refine ⟨rfl, _, ?_, .written w.level path slice format⟩
    exact List.append_assoc ..

theorem assemble (tiles : List TileDraft) (rows cols : Json.Value) (options : Assembly.Options) :
    (assemble tiles rows cols options).Logs :=
  (ofExcept _ _).bind fun _ => (log _ _ _).bind fun _ => pure _

end Logs

end Session

namespace Client

variable (c : Client)

theorem logs_get (url : String) : (c.get url).Logs := by
  rw [get, ← bind_assoc]
  refine (Session.Logs.announced ⟨"GET", url, c.headers⟩ rfl).bind fun (status, statusText, body) => ?_
  dsimp only
  split
  · exact .ofExcept _ _
  · exact (Session.Logs.log _ _ _).bind fun _ => .fail _

theorem logs_describeCube (guid : String) : (c.describeCube guid).Logs :=
  (c.logs_get _).bind fun _ => .ofExcept _ _

theorem logs_fetchSlice (guid : String) (dim lineno : Number) : (c.fetchSlice guid dim lineno).Logs :=
  (c.logs_get _).bind fun _ => (Session.Logs.ofExcept _ _).bind fun _ =>
    (Session.Logs.log _ _ _).bind fun _ => .pure _

end Client

namespace Command

theorem logs_shapeFor (client : Client) (target : Arguments.Target) : (shapeFor client target).Logs := by
  unfold shapeFor
  cases target.shape with
  | some shape => exact .pure shape
  | none =>
    exact (client.logs_describeCube _).bind fun _ => (Session.Logs.ofExcept _ _).bind fun _ =>
      (Session.Logs.log _ _ _).bind fun _ => .pure _

theorem logs_writeOutput (a : Arguments) (slice : Slice) : (writeOutput a slice).Logs := by
  unfold writeOutput
  cases a.output with
  | none => exact .pure ()
  | some path => exact .written path slice _

theorem logs_fetch (a : Arguments) (client : Client) (target : Arguments.Target) : (fetch a client target).Logs :=
  (logs_shapeFor client target).bind fun _ => (client.logs_fetchSlice _ _ _).bind fun _ =>
    (Session.Logs.assemble _ _ _ _).bind fun _ => (logs_writeOutput a _).bind fun _ => .stdout _

end Command

end CubeSlice
