import CubeSlice.Json.Reader
import CubeSlice.Schema
import CubeSlice.Tile.Plan

/-!
# Payloads

The payload of a slice is an object with a list of tiles, each with a layout and its values. Reading
one reports the first violation; a violation inside a layout names the tile and the field.
-/

namespace CubeSlice

structure Tile where
  layout : Layout
  values : Array Number

def Tile.draft (t : Tile) : TileDraft := ⟨t.layout.toValue, some (.ofArray t.values)⟩

namespace Payload

open Schema

inductive Error where
  | layout (tile : Number) (field : String) (reason : Reason)
  | elsewhere (path : Path) (reason : Reason)
  | notJson (reason : Json.ReadError)

def layoutCheck : Check Layout := fun v => do
  let fs ← fields v
  Strided.ofFieldsM fun f => field fs f.name count

def tileCheck : Check Tile := fun v => do
  let fs ← fields v
  let layout ← field fs "layout" layoutCheck
  let values ← field fs "v" (items number)
  return ⟨layout, values.toArray⟩

def check : Check (List Tile) := fun v => do
  let fs ← fields v
  field fs "tiles" (items tileCheck)

namespace Error

def ofViolation (v : Violation) : Error :=
  match v.path with
  | [.key "tiles", .index i, .key "layout"] => layout (Number.ofNat i) "" v.reason
  | [.key "tiles", .index i, .key "layout", .key f] => layout (Number.ofNat i) f v.reason
  | path => elsewhere path v.reason

def message : Error → WideText
  | layout tile f reason =>
    "tile " ++ tile.text ++ ": layout" ++ (if f = "" then "" else "." ++ f) ++ ": " ++
      reason.message
  | elsewhere path reason =>
    (if path.text = "" then "payload" else path.text : WideText) ++ ": " ++ reason.message
  | notJson reason => "payload is not valid JSON: " ++ reason.message

end Error

def layoutPath (tile : Number) (field : String) : String :=
  "tiles." ++ tile.text ++ ".layout" ++ (if field = "" then "" else "." ++ field)

def parse (v : Json.Value) : Except Error (List Tile) := (check v).mapError Error.ofViolation

def parseText (text : String) : Except Error (List Tile) :=
  match Json.read text with
  | .ok v => parse v
  | .error e => .error (.notJson e)

end Payload

end CubeSlice
