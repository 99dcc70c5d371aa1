import CubeSlice.Proofs.Client

/-!
# Sessions side by side

Two sessions are compared from worlds that may differ in the level that is heard and in what was shown before. What
they show is compared by a relation between traces, and their results may differ in failures that are reported alike.
A session that only asks and logs runs alongside itself under every relation that pairs its requests and what it logs.
-/

namespace CubeSlice

inductive Interruption.Alike : Interruption → Interruption → Prop
  | same (i : Interruption) : Alike i i
  | failure {f f' : Failure} (hLine : f.line = f'.line) (hUsage : f.isUsage = false) (hUsage' : f'.isUsage = false) :
    Alike (.failure f) (.failure f')

/-- A relation between traces at two levels that pairs what two runs do in the same way. -/
structure Pairing (R : List Event → List Event → Prop) (level level' : Log.Level) : Prop where
  nil : R [] []
  append {t t' u u' : List Event} (h : R t t') (h' : R u u') : R (t ++ u) (t' ++ u')
  request (r : Request) : R [.request r] [.request r]
  stderr (text : WideText) : R [.stderr text] [.stderr text]
  log (call : Log.Call) : R (level.shown call) (level'.shown call)

theorem pairing_eq (level : Log.Level) : Pairing Eq level level where
  nil := rfl
  append h h' := h ▸ h' ▸ rfl
  request _ := rfl
  stderr _ := rfl
  log _ := rfl

structure World.Beside (w w' : World) : Prop where
  clock : w'.clock = w.clock
  replies : w'.replies = w.replies
  disk : w'.disk = w.disk

/-- From one pair of worlds to a later one: the levels stay, and related traces are added. -/
structure World.Advance (R : List Event → List Event → Prop) (w w' v v' : World) : Prop where
  beside : v.Beside v'
  level : v.level = w.level
  level' : v'.level = w'.level
  shown : ∃ t t', v.events = w.events ++ t ∧ v'.events = w'.events ++ t' ∧ R t t'

/-- How two runs end side by side. -/
inductive EndBeside {α : Type} (R : List Event → List Event → Prop) (w w' : World) :
    Except Interruption α × World → Except Interruption α × World → Prop
  | done {a : α} {v v' : World} (hAdvance : w.Advance R w' v v') : EndBeside R w w' (.ok a, v) (.ok a, v')
  | stopped {i j : Interruption} {v v' : World} (hAlike : i.Alike j) (hAdvance : w.Advance R w' v v') :
    EndBeside R w w' (.error i, v) (.error j, v')

variable {R : List Event → List Event → Prop} {w w' v v' : World}

namespace World.Advance

theorem refl (hPairing : Pairing R w.level w'.level) (hBeside : w.Beside w') : w.Advance R w' w w' :=
  ⟨hBeside, rfl, rfl, [], [], (List.append_nil _).symm, (List.append_nil _).symm, hPairing.nil⟩

theorem pairing (h : w.Advance R w' v v') (hPairing : Pairing R w.level w'.level) : Pairing R v.level v'.level := by
  rw [h.level, h.level']
  exact hPairing

theorem trans {u u' : World} (hPairing : Pairing R w.level w'.level) (hFirst : w.Advance R w' v v')
    (hRest : v.Advance R v' u u') : w.Advance R w' u u' := by
  obtain ⟨t, t', hEvents, hEvents', hR⟩ := hFirst.shown
  obtain ⟨s, s', hLater, hLater', hS⟩ := hRest.shown
  refine ⟨hRest.beside, hRest.level.trans hFirst.level, hRest.level'.trans hFirst.level', t ++ s, t' ++ s', ?_, ?_,
    hPairing.append hR hS⟩
  · rw [hLater, hEvents, List.append_assoc]
  · rw [hLater', hEvents', List.append_assoc]

end World.Advance

theorem EndBeside.after {α : Type} {r r' : Except Interruption α × World} (hPairing : Pairing R w.level w'.level)
    (hAdvance : w.Advance R w' v v') (h : EndBeside R v v' r r') : EndBeside R w w' r r' := by
  cases h with
  | done hRest => exact .done (hAdvance.trans hPairing hRest)
  | stopped hAlike hRest => exact .stopped hAlike (hAdvance.trans hPairing hRest)

namespace Session

variable {α β : Type} {s s' : Session α}

def Alongside (R : List Event → List Event → Prop) (s s' : Session α) (w w' : World) : Prop :=
  EndBeside R w w' (s.run w) (s'.run w')

namespace Alongside

theorem bind {f f' : α → Session β} (hPairing : Pairing R w.level w'.level) (hs : Alongside R s s' w w')
    (hf : ∀ a v v', w.Advance R w' v v' → Alongside R (f a) (f' a) v v') :
    Alongside R (s >>= f) (s' >>= f') w w' := by
  unfold Alongside at hs ⊢
  rcases hRun : s.run w with ⟨r, v⟩
  rcases hRun' : s'.run w' with ⟨r', v'⟩
  rw [hRun, hRun'] at hs
  cases hs with
  | @done a _ _ hAdvance =>
    rw [run_bind_of_ok hRun, run_bind_of_ok hRun']
    exact (hf a v v' hAdvance).after hPairing hAdvance
  | stopped hAlike hAdvance =>
    rw [run_bind_of_error hRun, run_bind_of_error hRun']
    exact .stopped hAlike hAdvance

theorem pure (hPairing : Pairing R w.level w'.level) (hBeside : w.Beside w') (a : α) :
    Alongside R (pure a) (pure a) w w' := .done (.refl hPairing hBeside)

theorem throw {i j : Interruption} (hPairing : Pairing R w.level w'.level) (hBeside : w.Beside w') (h : i.Alike j) :
    Alongside R (throw i : Session α) (throw j) w w' := .stopped h (.refl hPairing hBeside)

theorem emit {e e' : Event} (hBeside : w.Beside w') (h : R [e] [e']) : Alongside R (emit e) (emit e') w w' :=
  .done ⟨⟨hBeside.clock, hBeside.replies, hBeside.disk⟩, rfl, rfl, [e], [e'], rfl, rfl, h⟩

theorem writeSlice {path : String} {slice slice' : Slice} {format : OutputFormat}
    (hPairing : Pairing R w.level w'.level) (hBeside : w.Beside w')
    (hWrite : R [.write path slice format] [.write path slice' format]) :
    Alongside R (writeSlice path slice format) (Session.writeSlice path slice' format) w w' := by
  have hAdvance : w.Advance R w' (w.showing (.write path slice format)) (w'.showing (.write path slice' format)) :=
    ⟨⟨hBeside.clock, hBeside.replies, hBeside.disk⟩, rfl, rfl, _, _, rfl, rfl, hWrite⟩
  unfold Alongside
  rw [run_writeSlice, run_writeSlice, hBeside.disk]
  split
  · exact .stopped (.same _) (.refl hPairing hBeside)
  · exact .done hAdvance

end Alongside

/-- A session that runs alongside itself from all worlds in which it finds the same. -/
structure Steady (s : Session α) : Prop where
  alongside {R : List Event → List Event → Prop} {w w' : World} (hPairing : Pairing R w.level w'.level)
    (hBeside : w.Beside w') : Alongside R s s w w'

namespace Steady

theorem bind {f : α → Session β} (hs : s.Steady) (hf : ∀ a, (f a).Steady) : (s >>= f).Steady where
  alongside := by
    intro R w w' hPairing hBeside
    apply Alongside.bind hPairing (hs.alongside hPairing hBeside)
    intro a v v' hAdvance
    exact (hf a).alongside (hAdvance.pairing hPairing) hAdvance.beside

theorem pure (a : α) : (pure a : Session α).Steady := ⟨fun hPairing hBeside => .pure hPairing hBeside a⟩

theorem fail (f : Failure) : (fail f : Session α).Steady :=
  ⟨fun hPairing hBeside => .throw hPairing hBeside (.same _)⟩

theorem ofExcept {ε : Type} (wrap : ε → Failure) (r : Except ε α) : (ofExcept wrap r).Steady := by
  cases r with
  | error e => exact fail (wrap e)
  | ok a => exact pure a

theorem log (method : Log.Method) (scope text : String) : (log method scope text).Steady where
  alongside := by
    intro R w w' hPairing hBeside
    unfold Alongside
    rw [run_log, run_log]
    exact .done ⟨⟨hBeside.clock, hBeside.replies, hBeside.disk⟩, rfl, rfl, _, _, rfl, rfl, hPairing.log _⟩

theorem send (r : Request) : (send r).Steady where
  alongside := by
    intro R w w' hPairing hBeside
    have hAdvance : w.Advance R w' (sent r w) (sent r w') := by
      refine ⟨⟨hBeside.clock, ?_, hBeside.disk⟩, rfl, rfl, [.request r], [.request r], rfl, rfl, hPairing.request r⟩
      exact congrArg List.tail hBeside.replies
    unfold Alongside
    rw [run_send, run_send, hBeside.replies]
    split
    · exact .stopped (.same _) hAdvance
    · exact .done hAdvance
    · exact .stopped (.same _) hAdvance
    · exact .stopped (.same _) hAdvance

theorem assemble (tiles : List TileDraft) (rows cols : Json.Value) (options : Assembly.Options) :
    (assemble tiles rows cols options).Steady :=
  (ofExcept _ _).bind fun _ => (log _ _ _).bind fun _ => pure _

end Steady

end Session

namespace Client

open Session

variable (c : Client)

theorem steady_get (url : String) : (c.get url).Steady := by
  refine (Steady.log _ _ _).bind fun _ => (Steady.send _).bind fun (status, statusText, body) => ?_
  dsimp only
  split
  · exact .ofExcept _ _
  · exact (Steady.log _ _ _).bind fun _ => .fail _

theorem steady_describeCube (guid : String) : (c.describeCube guid).Steady :=
  (c.steady_get _).bind fun _ => .ofExcept _ _

theorem steady_fetchSlice (guid : String) (dim lineno : Number) : (c.fetchSlice guid dim lineno).Steady :=
  (c.steady_get _).bind fun _ => (Steady.ofExcept _ _).bind fun _ => (Steady.log _ _ _).bind fun _ => .pure _

end Client

end CubeSlice
