import CubeSlice.Command.Run
import CubeSlice.Proofs.Client

/-!
# Fetching a slice

A run that fetches first gathers the slice, which is an inquiry, and then delivers it: it writes the slice
if there is a file for it and shows the summary. The disk is looked at only by a run that writes.
-/

namespace CubeSlice.Command

variable (a : Arguments) (client : Client) (target : Arguments.Target)

def shapeQuestions : List Request :=
  if target.shape.isSome then [] else [client.describeRequest target.guid]

/-- All requests of a run: the description of the cube unless the shape is given, then the slice. -/
def questions : List Request :=
  shapeQuestions client target ++ [client.sliceRequest target.guid target.dim target.lineno]

theorem length_questions_le : (questions client target).length ≤ 2 := by
  unfold questions shapeQuestions
  split <;> simp

/-- The shape is the given one, or the first reply describes a cube that has slices of this shape. -/
def TellsShape (replies : List Reply) (shape : Number × Number) : Prop :=
  match target.shape with
  | some given => shape = given
  | none => ∃ description, TellsCube replies description ∧ description.sliceShape target.dim = .ok shape

def Makes (tiles : List Tile) (shape : Number × Number) (slice : Slice) : Prop :=
  ∃ assembled,
    assemble (tiles.map Tile.draft) (.number shape.1) (.number shape.2) (optionsFor a) = .ok assembled ∧
      slice = if a.transpose then assembled.transpose else assembled

/-- The slice is made of the tiles in the last reply. -/
def Fetched (replies : List Reply) (slice : Slice) : Prop :=
  ∃ shape tiles, TellsShape target replies shape ∧
    TellsTiles (replies.drop (shapeQuestions client target).length) tiles ∧ Makes a tiles shape slice

def gather : Session Slice := do
  let shape ← shapeFor client target
  let tiles ← client.fetchSlice target.guid target.dim target.lineno
  let assembled ← Session.assemble (tiles.map Tile.draft) (.number shape.1) (.number shape.2) (optionsFor a)
  return if a.transpose then assembled.transpose else assembled

def deliver (slice : Slice) : Session Unit := do
  writeOutput a slice
  Session.stdout slice.summary.line

theorem fetch_eq : fetch a client target = gather a client target >>= deliver a := by
  simp only [fetch, gather, deliver, bind_assoc, pure_bind]

theorem inquiry_shapeFor : (shapeFor client target).Inquiry (shapeQuestions client target) (TellsShape target) := by
  unfold shapeFor shapeQuestions TellsShape
  cases target.shape with
  | some given => exact .pure fun _ => rfl
  | none =>
    refine .bind (fun description _ shape => description.sliceShape target.dim = .ok shape)
      (client.inquiry_describeCube target.guid) ?_ ?_
    · intro description
      apply Session.Inquiry.ofExcept_bind (fun _ => rfl)
      intro shape hShape
      exact .log_bind (.pure fun _ => hShape)
    · intro _ description shape hDescription hShape
      exact ⟨description, hDescription, hShape⟩

theorem inquiry_assemble (tiles : List TileDraft) (rows cols : Json.Value) (options : Assembly.Options) :
    (Session.assemble tiles rows cols options).Inquiry [] fun _ slice =>
      assemble tiles rows cols options = .ok slice := by
  apply Session.Inquiry.ofExcept_bind (fun _ => rfl)
  intro r hRun
  apply Session.Inquiry.log_bind
  apply Session.Inquiry.pure
  intro _
  rw [assemble, hRun]
  rfl

theorem inquiry_gather : (gather a client target).Inquiry (questions client target) (Fetched a client target) := by
  refine .bind (fun shape replies slice => ∃ tiles, TellsTiles replies tiles ∧ Makes a tiles shape slice)
    (inquiry_shapeFor client target) ?_ ?_
  · intro shape
    refine .bind (fun tiles _ slice => Makes a tiles shape slice) (client.inquiry_fetchSlice _ _ _) ?_ ?_
    · intro tiles
      refine .bind (fun assembled _ slice => slice = if a.transpose then assembled.transpose else assembled)
        (inquiry_assemble _ _ _ _) ?_ ?_
      · intro assembled
        exact .pure fun _ => rfl
      · intro _ assembled slice hAssemble hSame
        exact ⟨assembled, hAssemble, hSame⟩
    · intro _ tiles slice hTiles hMakes
      exact ⟨tiles, hTiles, hMakes⟩
  · rintro _ shape slice hShape ⟨tiles, hTiles, hMakes⟩
    exact ⟨shape, tiles, hShape, hTiles, hMakes⟩

def written (slice : Slice) : List Event :=
  match a.output with
  | none => []
  | some path => [.write path slice (OutputFormat.infer (some path) a.format)]

theorem exists_foreign_of_disk {disk : Disk} {path : String} {f : Failure} (h : disk.failure? path = some f) :
    ∃ name message, f = .foreign name message := by
  cases disk with
  | ready => cases h
  | failing message =>
    cases h
    exact ⟨_, _, rfl⟩
  | emptyFolder =>
    dsimp only [Disk.failure?] at h
    split at h
    · cases h
    · cases h
      exact ⟨_, _, rfl⟩

theorem isUsage_of_disk {disk : Disk} {path : String} {f : Failure} (h : disk.failure? path = some f) :
    f.isUsage = false := by
  obtain ⟨name, message, rfl⟩ := exists_foreign_of_disk h
  rfl

theorem run_deliver_of_failure (slice : Slice) {path : String} {f : Failure} {w : World}
    (hOutput : a.output = some path) (hDisk : w.disk.failure? path = some f) :
    (deliver a slice).run w = (.error (.failure f), w) := by
  apply Session.run_bind_of_error
  unfold writeOutput
  rw [hOutput]
  apply Session.run_bind_of_error
  rw [Session.run_writeSlice, hDisk]

theorem run_writeOutput (slice : Slice) {w : World}
    (hDisk : ∀ path, a.output = some path → w.disk.failure? path = none) :
    ∃ after, (writeOutput a slice).run w = (.ok (), after) ∧ w.Shows after (written a slice) := by
  unfold writeOutput written
  cases hOutput : a.output with
  | none => exact ⟨w, rfl, .of_eq rfl⟩
  | some path =>
    have hWrite := Session.run_writeSlice path slice (OutputFormat.infer (some path) a.format) w
    rw [hDisk path hOutput] at hWrite
    have hWritten : w.Shows _ [.write path slice (OutputFormat.infer (some path) a.format)] := .showing rfl
    obtain ⟨after, hLog, hAsked⟩ := Session.exists_run_log .info "cli"
      ("wrote " ++ (OutputFormat.infer (some path) a.format).name ++ " slice to " ++ path) (w.showing _)
    exact ⟨after, (Session.run_bind_of_ok hWrite).trans hLog, hWritten.trans hAsked.shows⟩

theorem run_deliver (slice : Slice) {w : World}
    (hDisk : ∀ path, a.output = some path → w.disk.failure? path = none) : ∃ after,
    (deliver a slice).run w = (.ok (), after) ∧ w.Shows after (written a slice ++ [.stdout slice.summary.line]) := by
  obtain ⟨mid, hWrite, hWritten⟩ := run_writeOutput a slice hDisk
  refine ⟨mid.showing (.stdout slice.summary.line), ?_, hWritten.trans (.showing rfl)⟩
  exact Session.run_bind_of_ok hWrite

theorem blind_deliver (slice : Slice) (w : World) (h : a.output = none) : (deliver a slice).Blind w := by
  intro disk
  unfold deliver writeOutput
  rw [h]
  rfl

end CubeSlice.Command
