import CubeSlice.Session
import CubeSlice.Url.Join

/-!
# The query service

A client asks the service for the listing of cubes, for the description of a cube and for the tiles
of a slice. Each question is one request; a status outside 200 to 299 is a failure whatever the body
says, and a body has to be JSON of the expected form.
-/

namespace CubeSlice

structure Client where
  baseUrl : String
  token : Option String

namespace Client

/-- The headers of every request; an empty token is no token. -/
def headers (c : Client) : List (String × String) :=
  ("Accept", "application/json") ::
    match c.token with
    | some token => if token = "" then [] else [("Authorization", "Bearer " ++ token)]
    | none => []

def isSuccess (status : Number) : Bool :=
  (Number.ofNat 200).le status && status.le (Number.ofNat 299)

def get (c : Client) (url : String) : Session Json.Value := do
  Session.log .debug "client" ("GET " ++ url)
  let (status, statusText, body) ← Session.send ⟨"GET", url, c.headers⟩
  if isSuccess status then
    Session.ofExcept (.notJson url) (Json.read body)
  else do
    Session.log .warn "client" ("GET " ++ url ++ " -> " ++ status.text)
    Session.fail (.status status statusText url)

def listCubes (c : Client) : Session (List (WideText × WideText)) := do
  let v ← c.get (Url.join c.baseUrl [])
  Session.ofExcept (.cube "cube listing") (Cube.listingCheck v)

def describeCube (c : Client) (guid : String) : Session Cube.Description := do
  let v ← c.get (Url.join c.baseUrl [guid])
  Session.ofExcept (.cube "cube description") (Cube.descriptionCheck v)

def fetchSlicePayload (c : Client) (guid : String) (dim lineno : Number) : Session Json.Value :=
  c.get (Url.join c.baseUrl [guid, "slice", dim.text, lineno.text])

def fetchSlice (c : Client) (guid : String) (dim lineno : Number) : Session (List Tile) := do
  let v ← c.fetchSlicePayload guid dim lineno
  let tiles ← Session.ofExcept .payload (Payload.parse v)
  Session.log .debug "client"
    ("slice " ++ guid ++ "/" ++ dim.text ++ "/" ++ lineno.text ++ ": " ++ toString tiles.length ++
      " tile(s)")
  return tiles

end Client

end CubeSlice
