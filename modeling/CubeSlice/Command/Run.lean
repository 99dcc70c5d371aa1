import CubeSlice.Client
import CubeSlice.Slice.Summary

/-!
# Running a command

A run fetches one slice, assembles it, writes it if asked to, and prints its summary. Arguments
override settings. The exit code is 0 for success, 2 for a usage error and 1 for any other failure;
a thrown value passes through.
-/

namespace CubeSlice.Command

def usage : String :=
  "Usage: slicestitch --base-url URL --guid GUID --dim D --lineno L [options]\n" ++
  "\n" ++
  "Options:\n" ++
  "  --shape0 N --shape1 M   Slice shape (derived from the cube description if omitted)\n" ++
  "  --token T               Bearer token (or SLICESTITCH_TOKEN)\n" ++
  "  --secret S              Sign an HS256 service token (or SLICESTITCH_SECRET)\n" ++
  "  --output FILE, -o FILE  Write the slice to FILE\n" ++
  "  --format json|csv|npy   Output encoding (default: from FILE extension, else json)\n" ++
  "  --transpose             Write the transposed slice\n" ++
  "  --require-coverage      Fail if any slice element is not written by a tile\n" ++
  "  --f32                   Assemble into 32-bit floats (default: 64-bit)\n" ++
  "  --verbose, -v           Debug logging\n" ++
  "  --help, -h              Show this message"

def levelFor (a : Arguments) (settings : Settings) : Option Log.Level :=
  if a.verbose then some .debug else settings.logLevel

/-- The token that a run sends: one that was given, else one signed with the secret. -/
def tokenFor (a : Arguments) (settings : Settings) (now : Number) :
    Except Token.LifetimeError (Option String) :=
  match a.token <|> settings.token with
  | some token => .ok (some token)
  | none =>
    match a.secret <|> settings.secret with
    | none => .ok none
    | some secret =>
      let asked := match settings.tokenLifetime with
        | some x => Json.Value.number x
        | none => .absent
      (Token.service secret asked now).map some

def shapeFor (client : Client) (target : Arguments.Target) : Session (Number × Number) := do
  match target.shape with
  | some shape => return shape
  | none =>
    let description ← client.describeCube target.guid
    let shape ← Session.ofExcept .cubeShape (description.sliceShape target.dim)
    Session.log .info "cli"
      ("derived slice shape [" ++ shape.1.text ++ ", " ++ shape.2.text ++ "] from cube " ++
        target.guid)
    return shape

def optionsFor (a : Arguments) : Assembly.Options :=
  ⟨if a.single then .single else .double, a.requireCoverage⟩

def writeOutput (a : Arguments) (slice : Slice) : Session Unit := do
  match a.output with
  | none => return
  | some path =>
    let format := OutputFormat.infer (some path) a.format
    Session.writeSlice path slice format
    Session.log .info "cli" ("wrote " ++ format.name ++ " slice to " ++ path)

def fetch (a : Arguments) (client : Client) (target : Arguments.Target) : Session Unit := do
  let shape ← shapeFor client target
  let tiles ← client.fetchSlice target.guid target.dim target.lineno
  let assembled ← Session.assemble (tiles.map Tile.draft) (.number shape.1) (.number shape.2)
    (optionsFor a)
  let slice := if a.transpose then assembled.transpose else assembled
  writeOutput a slice
  Session.stdout slice.summary.line

def execute (a : Arguments) (env : Environment) : Session Unit := do
  let settings ← Session.ofExcept .settings (Settings.load env)
  match levelFor a settings with
  | some level => Session.setLevel level
  | none => pure ()
  match a.baseUrl <|> settings.baseUrl with
  | none => Session.fail (.usage .baseUrlRequired)
  | some baseUrl =>
    let target ← Session.ofExcept .usage a.target
    let token ← Session.ofExcept .lifetime (tokenFor a settings (← Session.now))
    fetch a ⟨baseUrl, token⟩ target

def report (f : Failure) : Session Nat := do
  Session.stderr f.line
  match f with
  | .usage _ =>
    Session.stderr usage
    return 2
  | _ => return 1

def perform (argv : List String) (env : Environment) : Session Nat := do
  let a ← Session.ofExcept .usage (Arguments.parse argv)
  if a.help then
    Session.stdout usage
  else
    execute a env
  return 0

def run (argv : List String) (env : Environment) : Session Nat :=
  tryCatch (perform argv env) fun
    | .failure f => report f
    | .thrown v => throw (.thrown v)

end CubeSlice.Command
