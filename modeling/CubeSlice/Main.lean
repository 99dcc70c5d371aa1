import CubeSlice.Command.Run
import CubeSlice.Transport
import Std.Async.DNS
import Std.Async.TCP
import Std.Time.DateTime.Timestamp

/-!
# The command line

Runs the session of a command. A session is computed from the replies that are already there; while
it asks for one more, the last request is sent and the session computed again. Then its trace is
played: the file is written, lines are printed and the exit code is returned.
-/

namespace CubeSlice

open Std.Async Std.Net

def environmentNow : IO Environment := do
  let names := [Settings.Variable.baseUrl, .token, .secret, .tokenLifetime, .logLevel].map (·.name)
  names.filterMapM fun name => return (← IO.getEnv name).map (name, ·)

/-- Everything that comes back until the connection closes. -/
partial def receive (socket : TCP.Socket.Client) (done : ByteArray) : IO ByteArray := do
  match ← (socket.recv? 65536).block with
  | some bytes => receive socket (done ++ bytes)
  | none => return done

def address (ip : IPAddr) (port : Nat) : SocketAddress :=
  match ip with
  | .v4 a => .v4 ⟨a, port.toUInt16⟩
  | .v6 a => .v6 ⟨a, port.toUInt16⟩

def exchange (r : Request) : IO Reply := do
  match Transport.endpoint? r.url with
  | none => return Transport.unreachable
  | some e =>
    try
      let found ← (DNS.getAddrInfo e.host "http" (some .ipv4)).block
      match found[0]? with
      | none => return Transport.unreachable
      | some ip =>
        let socket ← TCP.Socket.Client.mk
        (socket.connect (address ip e.port)).block
        (socket.send (Transport.message e r).toUTF8).block
        let bytes ← receive socket ByteArray.empty
        return Transport.readReply bytes.toList
    catch _ => return Transport.unreachable

def requestsOf (events : List Event) : List Request :=
  events.filterMap fun
    | .request r => some r
    | _ => none

/-- Computes the session, sending what it asks for. -/
partial def settle (act : Session Nat) (w : World) :
    IO (World × Except Interruption Nat × World) := do
  let (outcome, after) := act.run w
  match (requestsOf after.events)[w.replies.length]? with
  | some r =>
    let reply ← exchange r
    settle act { w with replies := w.replies ++ [reply] }
  | none => return (w, outcome, after)

/-- The number under which the system reports a step through something that is no folder. -/
def notFolderCode : UInt32 := 20

def faultMessage (path : String) : IO.Error → String
  | .noFileOrDirectory .. => Folder.Fault.missing.message path
  | .inappropriateType _ code _ =>
    (if code = notFolderCode then Folder.Fault.notFolder else .isFolder).message path
  | .resourceExhausted .. => Folder.Fault.noSpace.message path
  | .permissionDenied .. => Folder.Fault.denied.message path
  | .invalidArgument .. => Folder.Fault.nameTooLong.message path
  | fault => fault.toString

def tryWrite (events : List Event) : IO (Option String) := do
  for e in events do
    match e with
    | .write path slice format =>
      try
        IO.FS.writeBinFile path ⟨(slice.encode .quiet format).toBytes.toArray⟩
      catch fault => return some (faultMessage path fault)
    | _ => pure ()
  return none

def play (e : Event) : IO Unit :=
  match e with
  | .stdout text => IO.println text
  | .stderr text => IO.eprintln text.toText
  | .log line =>
    let text := " ".intercalate (line.args.map (·.display.toText))
    match line.method with
    | .error => IO.eprintln text
    | .warn => IO.eprintln text
    | _ => IO.println text
  | _ => pure ()

end CubeSlice

open CubeSlice in
def main (args : List String) : IO UInt32 := do
  let env ← environmentNow
  let now ← Std.Time.Timestamp.now
  let level := Log.Level.initial ((env.find? (·.1 == Settings.Variable.logLevel.name)).map (·.2))
  let start : World :=
    { level, clock := Number.ofInt now.toMillisecondsSinceUnixEpoch.toInt, replies := [],
      disk := .ready, events := [] }
  let act := Command.run args env
  let (w, outcome, after) ← settle act start
  let (outcome, after) ← match ← tryWrite after.events with
    | none => pure (outcome, after)
    | some fault => pure (act.run { w with disk := .failing "Error" fault })
  after.events.forM play
  match outcome with
  | .ok code => return code.toUInt32
  | .error _ => return 1
