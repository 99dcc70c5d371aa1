import CubeSlice.Failure
import CubeSlice.Folder
import CubeSlice.Log

/-!
# Sessions

A session acts on a world: it asks the query service, prints, logs and writes files. What it does is
kept as a trace of events in order, calls of a logger among them, whether they are heard or not; what
comes back from the service is a list of replies, used up one by one. A session ends with a result, a
failure, or a value that the transport threw.
-/

namespace CubeSlice

structure Request where
  method : String
  url : String
  headers : List (String × String)
  deriving DecidableEq

/-- What the transport makes of one request. -/
inductive Reply where
  | response (status : Number) (statusText body : String)
  | failure (name message : String)
  | thrown (v : Json.Value)

inductive Event where
  | request (r : Request)
  | call (call : Log.Call)
  | log (line : Log.Line)
  | stdout (text : String)
  | stderr (text : WideText)
  | write (path : String) (slice : Slice) (format : OutputFormat)

inductive Disk where
  | ready
  | failing (name message : String)
  | emptyFolder

def Disk.failure? (path : String) : Disk → Option Failure
  | ready => none
  | failing name message => some (.foreign name message)
  | emptyFolder =>
    match Folder.place path with
    | .ok _ => none
    | .error fault => some (.foreign fault.name (fault.message path))

structure World where
  level : Log.Level
  clock : Number
  replies : List Reply
  disk : Disk
  events : List Event

inductive Interruption where
  | failure (f : Failure)
  | thrown (v : Json.Value)

abbrev Session := ExceptT Interruption (StateM World)

namespace Session

def run {α : Type} (s : Session α) (w : World) : Except Interruption α × World :=
  (ExceptT.run s).run w

def fail {α : Type} (f : Failure) : Session α := throw (.failure f)

def ofExcept {ε α : Type} (wrap : ε → Failure) : Except ε α → Session α
  | .ok a => pure a
  | .error e => fail (wrap e)

def emit (e : Event) : Session Unit := modify fun w => { w with events := w.events ++ [e] }

def stdout (text : String) : Session Unit := emit (.stdout text)

def stderr (text : WideText) : Session Unit := emit (.stderr text)

def logCall (call : Log.Call) : Session Unit := do
  emit (.call call)
  let w ← get
  if Log.heard w.level call.method then emit (.log call.line)

def log (method : Log.Method) (scope text : String) : Session Unit :=
  logCall ⟨method, scope, [.string text]⟩

def setLevel (level : Log.Level) : Session Unit := modify fun w => { w with level := level }

def now : Session Number := return (← get).clock

/-- Takes the next reply; there is a failure when none is left. -/
def nextReply : Session Reply := do
  let w ← get
  match w.replies with
  | [] => return .failure "Error" "no response left"
  | r :: rest => do
    set { w with replies := rest }
    return r

/-- Sends a request and waits for what comes back. -/
def send (r : Request) : Session (Number × String × String) := do
  emit (.request r)
  match ← nextReply with
  | .response status statusText body => return (status, statusText, body)
  | .failure name message => fail (.foreign name message)
  | .thrown v => throw (.thrown v)

def writeSlice (path : String) (slice : Slice) (format : OutputFormat) : Session Unit := do
  match (← get).disk.failure? path with
  | some f => fail f
  | none => emit (.write path slice format)

/-- Assembles a slice and leaves a note about it. -/
def assemble (tiles : List TileDraft) (rows cols : Json.Value) (options : Assembly.Options) :
    Session Slice := do
  let r ← ofExcept .assembly (Assembly.run tiles rows cols options)
  log .debug "assemble" r.note
  return r.slice

end Session

end CubeSlice
