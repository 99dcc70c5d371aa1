import CubeSlice.Proofs.Alongside
import CubeSlice.Proofs.Command.Trace

/-!
# Runs side by side

Two runs that fetch the same slice do so alongside each other, and they end alike: with the same exit code or the same
thrown value, and with related traces.
-/

namespace CubeSlice.Command

open Session (Alongside Steady)

variable {R : List Event → List Event → Prop} {w w' : World} {a a' : Arguments} {client : Client}
  {target target' : Arguments.Target}

theorem alongside_deliver {slice slice' : Slice} (hOutput : a'.output = a.output) (hFormat : a'.format = a.format)
    (hPairing : Pairing R w.level w'.level) (hBeside : w.Beside w')
    (hWrite : ∀ path format, R [.write path slice format] [.write path slice' format])
    (hSummary : R [.stdout slice.summary.line] [.stdout slice'.summary.line]) :
    Alongside R (deliver a slice) (deliver a' slice') w w' := by
  refine Alongside.bind hPairing ?_ fun _ _ _ hAdvance => .emit hAdvance.beside hSummary
  unfold writeOutput
  rw [hOutput, hFormat]
  cases a.output with
  | none => exact .pure hPairing hBeside ()
  | some path =>
    refine Alongside.bind hPairing (.writeSlice hPairing hBeside (hWrite path _)) fun _ _ _ hAdvance => ?_
    exact (Steady.log _ _ _).alongside (hAdvance.pairing hPairing) hAdvance.beside

def orient (a : Arguments) (slice : Slice) : Slice := if a.transpose then slice.transpose else slice

def fetchShaped (a : Arguments) (client : Client) (target : Arguments.Target) (shape : Number × Number) :
    Session Unit := do
  let tiles ← client.fetchSlice target.guid target.dim target.lineno
  let assembled ← Session.assemble (tiles.map Tile.draft) (.number shape.1) (.number shape.2) (optionsFor a)
  deliver a (orient a assembled)

theorem fetch_eq_fetchShaped (a : Arguments) (client : Client) (target : Arguments.Target) :
    fetch a client target = shapeFor client target >>= fetchShaped a client target := rfl

theorem steady_shapeFor (client : Client) (target : Arguments.Target) : (shapeFor client target).Steady := by
  unfold shapeFor
  cases target.shape with
  | some shape => exact .pure shape
  | none =>
    exact (client.steady_describeCube _).bind fun _ => (Steady.ofExcept _ _).bind fun _ =>
      (Steady.log _ _ _).bind fun _ => .pure _

theorem alongside_fetchShaped {shape shape' : Number × Number} (hPairing : Pairing R w.level w'.level)
    (hBeside : w.Beside w') (hOutput : a'.output = a.output) (hFormat : a'.format = a.format)
    (hAssemble : ∀ tiles v v', w.Advance R w' v v' →
      Alongside R (Session.assemble tiles (.number shape.1) (.number shape.2) (optionsFor a))
        (Session.assemble tiles (.number shape'.1) (.number shape'.2) (optionsFor a')) v v')
    (hWrite : ∀ path slice format,
      R [.write path (orient a slice) format] [.write path (orient a' slice) format])
    (hSummary : ∀ slice, R [.stdout (orient a slice).summary.line] [.stdout (orient a' slice).summary.line]) :
    Alongside R (fetchShaped a client target shape) (fetchShaped a' client target shape') w w' := by
  have hTiles := (client.steady_fetchSlice target.guid target.dim target.lineno).alongside hPairing hBeside
  refine Alongside.bind hPairing hTiles fun tiles v v' hFetched => ?_
  have hFetchedPairing := hFetched.pairing hPairing
  refine Alongside.bind hFetchedPairing (hAssemble _ v v' hFetched) fun slice u u' hAssembled => ?_
  exact alongside_deliver hOutput hFormat (hAssembled.pairing hFetchedPairing) hAssembled.beside
    (fun path format => hWrite path slice format) (hSummary slice)

/-- Arguments that ask for the same, but for the orientation of the slice. -/
structure SameButTurned (a a' : Arguments) : Prop where
  output : a'.output = a.output
  format : a'.format = a.format
  options : optionsFor a' = optionsFor a

theorem SameButTurned.alongside_fetch (hSame : SameButTurned a a') (client : Client) (target : Arguments.Target)
    (hPairing : Pairing R w.level w'.level) (hBeside : w.Beside w')
    (hWrite : ∀ path slice format,
      R [.write path (orient a slice) format] [.write path (orient a' slice) format])
    (hSummary : ∀ slice, R [.stdout (orient a slice).summary.line] [.stdout (orient a' slice).summary.line]) :
    Alongside R (fetch a client target) (fetch a' client target) w w' := by
  rw [fetch_eq_fetchShaped, fetch_eq_fetchShaped]
  refine Alongside.bind hPairing ((steady_shapeFor client target).alongside hPairing hBeside) ?_
  intro shape v v' hShaped
  have hShapedPairing := hShaped.pairing hPairing
  refine alongside_fetchShaped hShapedPairing hShaped.beside hSame.output hSame.format ?_ hWrite hSummary
  intro tiles u u' hFetched
  rw [hSame.options]
  exact (Steady.assemble _ _ _ _).alongside (hFetched.pairing hShapedPairing) hFetched.beside

variable {argv argv' : List String} {env env' : Environment}

theorem endBeside_perform (hFetches : Fetches argv a) (hFetches' : Fetches argv' a')
    (hPrepared : prepared a' env' w'.clock = prepared a env w.clock)
    (hPairing : Pairing R (leveled a env w).level (leveled a' env' w').level)
    (hBeside : (leveled a env w).Beside (leveled a' env' w'))
    (hFetch : ∀ client target,
      Alongside R (fetch a client target) (fetch a' client target) (leveled a env w) (leveled a' env' w')) :
    EndBeside R (leveled a env w) (leveled a' env' w') ((perform argv env).run w) ((perform argv' env').run w') := by
  cases hReady : prepared a env w.clock with
  | error f =>
    rw [run_perform_of_unprepared hFetches hReady, run_perform_of_unprepared hFetches' (hPrepared.trans hReady)]
    exact .stopped (.same _) (.refl hPairing hBeside)
  | ok ready =>
    obtain ⟨client, target⟩ := ready
    rw [run_perform_of_prepared hFetches hReady, run_perform_of_prepared hFetches' (hPrepared.trans hReady)]
    refine Alongside.bind hPairing (hFetch client target) fun _ v v' hAdvance => ?_
    exact .pure (hAdvance.pairing hPairing) hAdvance.beside 0

theorem related_reported {level level' : Log.Level} (hPairing : Pairing R level level') (f : Failure) :
    R (reported f) (reported f) := by
  unfold reported
  split
  · exact hPairing.append (hPairing.stderr f.line) (hPairing.stderr usage)
  · exact hPairing.stderr f.line

theorem advance_reported {v v' u u' : World} {reports reports' : List Event} (hPairing : Pairing R v.level v'.level)
    (hAdvance : v.Advance R v' u u') (hReports : R reports reports') :
    v.Advance R v' { u with events := u.events ++ reports } { u' with events := u'.events ++ reports' } := by
  apply hAdvance.trans hPairing
  exact ⟨⟨hAdvance.beside.clock, hAdvance.beside.replies, hAdvance.beside.disk⟩, rfl, rfl, _, _, rfl, rfl, hReports⟩

theorem advance_run {v v' : World} (hPairing : Pairing R v.level v'.level)
    (h : EndBeside R v v' ((perform argv env).run w) ((perform argv' env').run w')) :
    ((run argv' env').run w').1 = ((run argv env).run w).1 ∧
      v.Advance R v' ((run argv env).run w).2 ((run argv' env').run w').2 := by
  rcases hRun : (perform argv env).run w with ⟨r, u⟩
  rcases hRun' : (perform argv' env').run w' with ⟨r', u'⟩
  rw [hRun, hRun'] at h
  cases h with
  | done hAdvance =>
    rw [run_of_ok hRun, run_of_ok hRun']
    exact ⟨rfl, hAdvance⟩
  | stopped hAlike hAdvance =>
    cases hAlike with
    | same =>
      rename_i i
      cases i with
      | thrown value =>
        rw [run_of_thrown hRun, run_of_thrown hRun']
        exact ⟨rfl, hAdvance⟩
      | failure f =>
        rw [run_of_failure hRun, run_of_failure hRun']
        exact ⟨rfl, advance_reported hPairing hAdvance (related_reported hPairing f)⟩
    | @failure f f' hLine hUsage hUsage' =>
      have hReported : reported f = reported f' := by simp [reported, hLine, hUsage, hUsage']
      rw [run_of_failure hRun, run_of_failure hRun', hUsage, hUsage', ← hReported]
      exact ⟨rfl, advance_reported hPairing hAdvance (related_reported hPairing f)⟩

theorem run_beside {v v' : World} (hPairing : Pairing R v.level v'.level) (hEvents : v.events = w.events)
    (hEvents' : v'.events = w'.events)
    (h : EndBeside R v v' ((perform argv env).run w) ((perform argv' env').run w')) :
    ((run argv' env').run w').1 = ((run argv env).run w).1 ∧ R (trace argv env w) (trace argv' env' w') := by
  obtain ⟨hResult, hAdvance⟩ := advance_run hPairing h
  obtain ⟨t, t', hLater, hLater', hR⟩ := hAdvance.shown
  rw [hEvents] at hLater
  rw [hEvents'] at hLater'
  rw [trace_eq hLater, trace_eq hLater']
  exact ⟨hResult, hR⟩

end CubeSlice.Command
