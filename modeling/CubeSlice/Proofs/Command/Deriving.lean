import CubeSlice.Proofs.Command.Appending
import CubeSlice.Proofs.Command.Beside
import CubeSlice.Proofs.Replies

/-!
# Deriving the shape

A run without a shape asks for the description of the cube first. From the reply on it is the run with the shape of
the cube's slices written at the end of the command line. The two can differ in the sign of a size that is zero, which
is not written; such a shape is refused either way, in the same words.
-/

namespace CubeSlice.Command

open Arguments
open Session (Alongside Steady)

variable {w : World} {a : Arguments} {client : Client} {target : Target} {rows cols : Number}
  {d : Cube.Description}

theorem isDimension_of_isZero {x : Number} (h : x.isZero = true) : x.isDimension = false := by
  cases x with
  | nan => cases h
  | infinite negative => cases h
  | finite s n held =>
    obtain rfl : n = 0 := eq_of_beq h
    have hLess : Number.zero.lt (.finite s 0 held) = false := by cases s <;> rfl
    rw [Number.isDimension, hLess, Bool.and_false]

theorem assemble_of_isZero {x y : Number} (h : x.isZero = true ∨ y.isZero = true) (tiles : List TileDraft)
    (options : Assembly.Options) : Session.assemble tiles (.number x) (.number y) options =
      Session.fail (.assembly (.extent (.notDimensions (.number x) (.number y)))) := by
  have hNot : ¬ (x.isDimension = true ∧ y.isDimension = true) := by
    rintro ⟨hx, hy⟩
    rcases h with hZero | hZero
    · rw [isDimension_of_isZero hZero] at hx
      cases hx
    · rw [isDimension_of_isZero hZero] at hy
      cases hy
  have hRun : Assembly.run tiles (.number x) (.number y) options =
      .error (.extent (.notDimensions (.number x) (.number y))) := by
    rw [Assembly.run, Extent.ofDimensions, dif_neg hNot]
    rfl
  rw [Session.assemble, hRun]
  rfl

theorem line_notDimensions {x y x' y' : Number} (hx : x.EqUpToSign x') (hy : y.EqUpToSign y') :
    (Failure.assembly (.extent (.notDimensions (.number x) (.number y)))).line =
      (Failure.assembly (.extent (.notDimensions (.number x') (.number y')))).line := by
  have hMessage (x y : Number) : (Assembly.Error.extent (.notDimensions (.number x) (.number y))).message =
      "slice shape must be positive integers, got [" ++ x.text ++ ", " ++ y.text ++ "]" := rfl
  have hLine (e : Assembly.Error) : (Failure.assembly e).line = Failure.assemblyName e ++ ": " ++ e.message := rfl
  rw [hLine, hLine, hMessage, hMessage, hx.text_eq, hy.text_eq]
  rfl

theorem alongside_assemble_asWritten {R : List Event → List Event → Prop} {w' : World}
    (hPairing : Pairing R w.level w'.level) (hBeside : w.Beside w') (tiles : List TileDraft)
    (options : Assembly.Options) :
    Alongside R (Session.assemble tiles (.number rows) (.number cols) options)
      (Session.assemble tiles (.number rows.asWritten) (.number cols.asWritten) options) w w' := by
  by_cases hZero : rows.isZero = true ∨ cols.isZero = true
  · have hZero' : rows.asWritten.isZero = true ∨ cols.asWritten.isZero = true := by
      rwa [Number.isZero_asWritten, Number.isZero_asWritten]
    have hLine := line_notDimensions rows.equpToSign_asWritten cols.equpToSign_asWritten
    rw [assemble_of_isZero hZero, assemble_of_isZero hZero']
    exact .throw hPairing hBeside (.failure hLine rfl rfl)
  · obtain ⟨hRows, hCols⟩ := not_or.mp hZero
    rw [Number.asWritten, if_neg hRows, Number.asWritten, if_neg hCols]
    exact (Steady.assemble _ _ _ _).alongside hPairing hBeside

theorem exists_run_shapeFor (client : Client) {shape : Number × Number} (hOpen : target.shape = .none)
    (hTold : TellsCube w.replies d) (hShape : d.sliceShape target.dim = .ok shape) :
    ∃ shown, Poses (client.describeRequest target.guid) shown ∧
      (shapeFor client target).run w = (.ok shape, w.answered shown) := by
  obtain ⟨shown, hPoses, hRun⟩ := client.exists_run_describeCube target.guid hTold
  let text := "derived slice shape [" ++ shape.1.text ++ ", " ++ shape.2.text ++ "] from cube " ++ target.guid
  refine ⟨_, hPoses.append_shown w.level ⟨.info, "cli", [.string text]⟩, ?_⟩
  rw [shapeFor, hOpen]
  dsimp only
  rw [Session.run_bind_of_ok hRun, hShape, Session.run_ofExcept_ok_bind,
    Session.run_bind_of_ok (Session.run_log _ _ _ _), World.answered, World.answered, List.append_assoc]
  rfl

theorem alongside_given {w' : World} (hBeside : w.Beside w') (hLevel : w'.level = w.level) (a : Arguments)
    (client : Client) (target : Target) (rows cols : Number) :
    Alongside Eq (fetchShaped a client target (rows, cols))
      (fetch (a.withShape rows.asWritten cols.asWritten) client
        { target with shape := some (rows.asWritten, cols.asWritten) }) w w' := by
  have hPairing : Pairing Eq w.level w'.level := hLevel ▸ pairing_eq w.level
  have hFetch : fetch (a.withShape rows.asWritten cols.asWritten) client
      { target with shape := some (rows.asWritten, cols.asWritten) } =
      fetchShaped (a.withShape rows.asWritten cols.asWritten) client target (rows.asWritten, cols.asWritten) := rfl
  rw [hFetch]
  refine alongside_fetchShaped hPairing hBeside rfl rfl ?_ (fun _ _ _ => rfl) fun _ => rfl
  intro tiles v v' hAdvance
  exact alongside_assemble_asWritten (hAdvance.pairing hPairing) hAdvance.beside tiles (optionsFor a)

variable {argv : List String} {env : Environment} {dim : Number}

theorem prepared_withShape {now : Number} (h : prepared a env now = .ok (client, target)) (rows cols : Number) :
    prepared (a.withShape rows cols) env now = .ok (client, { target with shape := some (rows, cols) }) := by
  obtain ⟨settings, hLoad, hReady⟩ := prepared_eq_ok_iff.mp h
  obtain ⟨hUrl, hTarget, hToken⟩ := ready_eq_ok_iff.mp hReady
  exact prepared_eq_ok_iff.mpr
    ⟨settings, hLoad, ready_eq_ok_iff.mpr ⟨hUrl, target_withShape hTarget rows cols, hToken⟩⟩

theorem leveled_withShape_pastReply (a : Arguments) (env : Environment) (w : World) (rows cols : Number) :
    leveled (a.withShape rows cols) env w.pastReply = (leveled a env w).pastReply := by
  unfold leveled
  cases Settings.load env <;> rfl

theorem target_of_open (hTarget : a.target = .ok target) (hRows : a.shape0 = .none) (hCols : a.shape1 = .none)
    (hDim : a.dim = some dim) : target.shape = .none ∧ target.dim = dim := by
  unfold Arguments.target at hTarget
  rw [hRows, hCols, hDim] at hTarget
  split at hTarget
  · cases hTarget
  · cases hTarget
  · cases hTarget
  · rename_i hSame _
    cases hTarget
    exact ⟨rfl, (Option.some.inj hSame).symm⟩

section Told

variable (hFetches : Fetches argv a) (hPrepared : prepared a env w.clock = .ok (client, target))
  (hTold : TellsCube w.replies d) (hShape : d.sliceShape target.dim = .ok (rows, cols))
  (hRows : rows.isSafeInteger = true) (hCols : cols.isSafeInteger = true)
include hFetches hPrepared hTold hShape hRows hCols

theorem exists_endBeside_given (hOpen : target.shape = .none) :
    ∃ shown, Poses (client.describeRequest target.guid) shown ∧
      EndBeside Eq ((leveled a env w).answered shown) (leveled a env w).pastReply ((perform argv env).run w)
        ((perform (argv ++ shapeWords rows cols) env).run w.pastReply) := by
  have hGiven := hFetches.append_shape hRows hCols
  have hPrepared' : prepared (a.withShape rows.asWritten cols.asWritten) env w.pastReply.clock =
      .ok (client, { target with shape := some (rows.asWritten, cols.asWritten) }) :=
    prepared_withShape hPrepared rows.asWritten cols.asWritten
  have hReplies : TellsCube (leveled a env w).replies d := (asked_leveled a env w).replies ▸ hTold
  obtain ⟨shown, hPoses, hShaped⟩ := exists_run_shapeFor client hOpen hReplies hShape
  have hPairing : Pairing Eq ((leveled a env w).answered shown).level (leveled a env w).pastReply.level :=
    pairing_eq (leveled a env w).level
  have hBeside : ((leveled a env w).answered shown).Beside (leveled a env w).pastReply := ⟨rfl, rfl, rfl⟩
  refine ⟨shown, hPoses, ?_⟩
  rw [run_perform_of_prepared hFetches hPrepared, run_perform_of_prepared hGiven hPrepared',
    leveled_withShape_pastReply, fetch_eq_fetchShaped, bind_assoc, Session.run_bind_of_ok hShaped]
  refine Alongside.bind hPairing (alongside_given hBeside rfl a client target rows cols) ?_
  intro _ v v' hAdvance
  exact .pure (hAdvance.pairing hPairing) hAdvance.beside 0

theorem exists_trace_given (hOpen : target.shape = .none) :
    ((run (argv ++ shapeWords rows cols) env).run w.pastReply).1 = ((run argv env).run w).1 ∧
      ∃ shown, Poses (client.describeRequest target.guid) shown ∧
        trace argv env w = shown ++ trace (argv ++ shapeWords rows cols) env w.pastReply := by
  obtain ⟨shown, hPoses, hEnd⟩ := exists_endBeside_given hFetches hPrepared hTold hShape hRows hCols hOpen
  have hPairing : Pairing Eq ((leveled a env w).answered shown).level (leveled a env w).pastReply.level :=
    pairing_eq (leveled a env w).level
  obtain ⟨hResult, hAdvance⟩ := advance_run hPairing hEnd
  obtain ⟨t, t', hEvents, hEvents', rfl⟩ := hAdvance.shown
  have hStart := events_leveled a env w
  have hTrace : trace argv env w = shown ++ t := by
    apply trace_eq
    rw [hEvents, World.answered, hStart, List.append_assoc]
  have hTrace' : trace (argv ++ shapeWords rows cols) env w.pastReply = t := by
    apply trace_eq
    rw [hEvents', World.pastReply, hStart]
    rfl
  exact ⟨hResult, shown, hPoses, by rw [hTrace, hTrace']⟩

end Told

theorem filterMap_write?_of_poses {r : Request} {shown : List Event} (h : Poses r shown) :
    shown.filterMap Event.write? = [] := by
  rw [← filterMap_filter_isLog (fun _ => rfl) (fun _ => rfl) shown, h]
  rfl

theorem filterMap_request?_of_poses {r : Request} {shown : List Event} (h : Poses r shown) :
    shown.filterMap Event.request? = [r] := by
  rw [← filterMap_filter_isLog (fun _ => rfl) (fun _ => rfl) shown, h]
  rfl

/-- A run that asks for the shape and is told it ends as the run that is given it and starts with the second reply.
It shows the question first and then exactly what the other shows, and hands the same to the writer. -/
theorem run_derived_shape (hFetches : Fetches argv a) (hFree : a.shape0 = .none ∧ a.shape1 = .none)
    (hDim : a.dim = some dim) (hAsks : requests argv env w ≠ []) (hTold : TellsCube w.replies d)
    (hShape : d.sliceShape dim = .ok (rows, cols)) (hRows : rows.isSafeInteger = true)
    (hCols : cols.isSafeInteger = true) :
    ((run (argv ++ shapeWords rows cols) env).run w.pastReply).1 = ((run argv env).run w).1 ∧
    (∃ client target shown, prepared a env w.clock = .ok (client, target) ∧
      Poses (client.describeRequest target.guid) shown ∧
      trace argv env w = shown ++ trace (argv ++ shapeWords rows cols) env w.pastReply ∧
      requests argv env w =
        client.describeRequest target.guid :: requests (argv ++ shapeWords rows cols) env w.pastReply) ∧
    handed (argv ++ shapeWords rows cols) env w.pastReply = handed argv env w := by
  obtain ⟨client, target, hPrepared⟩ := exists_prepared_of_requests hFetches hAsks
  obtain ⟨settings, -, hReady⟩ := prepared_eq_ok_iff.mp hPrepared
  obtain ⟨-, hTarget, -⟩ := ready_eq_ok_iff.mp hReady
  obtain ⟨hOpen, rfl⟩ := target_of_open hTarget hFree.1 hFree.2 hDim
  obtain ⟨hResult, shown, hPoses, hTrace⟩ :=
    exists_trace_given hFetches hPrepared hTold hShape hRows hCols hOpen
  -- What is handed over is read off the run on a disk that takes everything.
  obtain ⟨-, shown', hPoses', hTrace'⟩ :=
    exists_trace_given (w := w.onDisk .ready) hFetches hPrepared hTold hShape hRows hCols hOpen
  refine ⟨hResult, ⟨client, target, shown, hPrepared, hPoses, hTrace, ?_⟩, ?_⟩
  · rw [requests, hTrace, List.filterMap_append, filterMap_request?_of_poses hPoses]
    rfl
  · rw [handed, handed, hTrace', List.filterMap_append, filterMap_write?_of_poses hPoses']
    rfl

def cubeText : String :=
  "\x7b\"functions\":\x7b\x7d,\"dimensions\":[" ++
    "\x7b\"dimension\":0,\"size\":4,\"keys\":[]\x7d," ++
    "\x7b\"dimension\":1,\"size\":2,\"keys\":[]\x7d," ++
    "\x7b\"dimension\":2,\"size\":3,\"keys\":[]\x7d]\x7d"

def cubeWorld : World :=
  { sixWorld with replies := .response (Number.ofNat 200) "OK" cubeText :: sixWorld.replies }

def plainTarget : Target := ⟨"g", Number.ofDigits false ['0'], Number.ofDigits false ['0'], .none⟩

theorem exists_cube : ∃ d, TellsCube cubeWorld.replies d ∧
    d.sliceShape plainTarget.dim = .ok (two, three) := by
  have hRead : ((firstValue? cubeWorld.replies).bind fun v => (Cube.descriptionCheck v).toOption.bind fun d =>
      (d.sliceShape plainTarget.dim).toOption) = some (two, three) := by decide +kernel
  obtain ⟨v, hValue, hRest⟩ := Option.bind_eq_some_iff.mp hRead
  obtain ⟨d, hCheck, hShape⟩ := Option.bind_eq_some_iff.mp hRest
  exact ⟨d, ⟨v, hValue, Traversal.toOption_eq_some_iff.mp hCheck⟩, Traversal.toOption_eq_some_iff.mp hShape⟩

/-- Sliced through the first of its dimensions, into two rows of three. -/
theorem run_derived_shape_saved : requests savedArgv [] cubeWorld ≠ [] ∧
    ((run (savedArgv ++ shapeWords two three) []).run sixWorld).1 = ((run savedArgv []).run cubeWorld).1 ∧
    handed (savedArgv ++ shapeWords two three) [] sixWorld = handed savedArgv [] cubeWorld ∧
    (handed savedArgv [] cubeWorld).map (fun (path, slice, format) => (path, slice.rows, slice.cols, format)) =
      [("a.csv", 2, 3, .csv)] := by
  obtain ⟨d, hTold, hShape⟩ := exists_cube
  have hAsks : requests savedArgv [] cubeWorld ≠ [] := by decide +kernel
  have hDim : { plainArguments with output := some "a.csv" }.dim = some plainTarget.dim := by
    simp only [plainArguments, plainTarget]
  obtain ⟨hResult, -, hHanded⟩ := run_derived_shape (w := cubeWorld) fetches_savedArgv ⟨rfl, rfl⟩ hDim hAsks hTold
    hShape (by decide +kernel) (by decide +kernel)
  exact ⟨hAsks, hResult, hHanded, by decide +kernel⟩

end CubeSlice.Command
