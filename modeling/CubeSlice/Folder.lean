import CubeSlice.Text.Quoted

/-!
# An empty folder

What happens to a file that is written to a path, seen from inside a folder with nothing in it: the
name under which it appears there, or the fault. Of the surroundings the top of the tree is known,
with the folders that every system has and the devices that take any data; of the other folders only
that they stand above. A file that is written outside does not appear in the folder.
-/

namespace CubeSlice.Folder

inductive Fault where
  | missing
  | isFolder
  | notFolder
  | denied
  | nameTooLong
  | noSpace
  | nullInPath
  deriving DecidableEq, Repr

def Fault.message (path : String) : Fault → String
  | missing => "ENOENT: no such file or directory, open '" ++ path ++ "'"
  | isFolder => "EISDIR: illegal operation on a directory, open '" ++ path ++ "'"
  | notFolder => "ENOTDIR: not a directory, open '" ++ path ++ "'"
  | denied => "EACCES: permission denied, open '" ++ path ++ "'"
  | nameTooLong => "ENAMETOOLONG: name too long, open '" ++ path ++ "'"
  | noSpace => "ENOSPC: no space left on device, write"
  | nullInPath =>
    "The argument 'path' must be a string, Uint8Array, or URL without null bytes. Received " ++
      Text.Quoted.shown path

def Fault.name : Fault → String
  | nullInPath => "TypeError"
  | _ => "Error"

def longestName : Nat := 255

def longestPath : Nat := 4095

/-- What stands at a place: a device, with what comes of writing to it, or a folder, with what comes
of making a file in it. -/
inductive Node where
  | device (write : Except Fault Unit)
  | folder (create : Except Fault Unit) (entries : List (String × Node))

def Node.entry? (name : String) : Node → Option Node
  | device _ => none
  | folder _ entries => (entries.find? (·.1 == name)).map (·.2)

def Node.isDevice : Node → Bool
  | device _ => true
  | folder .. => false

def Node.create : Node → Except Fault Unit
  | device _ => .error .notFolder
  | folder create _ => create

def Node.write (name : String) (place : Node) : Except Fault Unit :=
  match place.entry? name with
  | some (device write) => write
  | some (folder ..) => .error .isFolder
  | none => place.create

def Node.plain : Node := .folder (.ok ()) []

def devices : Node :=
  .folder (.ok ()) [("null", .device (.ok ())), ("zero", .device (.ok ())),
    ("full", .device (.error .noSpace))]

def top : Node :=
  .folder (.ok ()) (
    [("dev", devices), ("proc", .folder (.error .missing) []), ("sys", .folder (.error .denied) [])]
      ++ ["bin", "boot", "etc", "home", "lib", "media", "mnt", "opt", "root", "run", "sbin", "srv",
        "tmp", "usr", "var"].map fun name => (name, .plain))

/-- Follows the steps of a path from a place. The places passed on the way come last first; the step
upward from the first of them leads to `above`. A slash at the end of the path is told by `closed`,
for which the last step has to be a folder that is there. -/
def walk (closed : Bool) (above : Node) (place : Node) (passed : List Node) :
    List String → Except Fault Unit
  | [] => .error .isFolder
  | step :: rest =>
    if place.isDevice then .error .notFolder
    else if step = "." then walk closed above place passed rest
    else if step = ".." then
      match passed with
      | [] => walk closed above above [] rest
      | last :: passed => walk closed above last passed rest
    else if rest.isEmpty && closed then .error .isFolder
    else if longestName < step.utf8ByteSize then .error .nameTooLong
    else if rest.isEmpty then place.write step
    else
      match place.entry? step with
      | some next => walk closed above next (place :: passed) rest
      | none => .error .missing

/-- The name under which a file appears in the folder that is written to this path; a file that is
written elsewhere has none. -/
def place (path : String) : Except Fault (Option String) :=
  if path.toList.contains '\x00' then .error .nullInPath
  else if path = "" then .error .missing
  else if longestPath < path.utf8ByteSize then .error .nameTooLong
  else
    let steps := (path.splitOn "/").filter (· != "")
    let start := if path.startsWith "/" then top else .plain
    (walk (path.endsWith "/") start start [] steps).map fun _ =>
      if path.startsWith "/" || steps.contains ".." then none else steps.getLast?

end CubeSlice.Folder
