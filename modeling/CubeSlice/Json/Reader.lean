import CubeSlice.Json.Token

/-!
# Reading

Tokens are put together with a stack of the arrays and objects that are still open, so that depth
of nesting costs no more than length.
-/

namespace CubeSlice.Json

/-- An open array with its items, or an open object with its fields and the key whose value is
awaited; both last first. -/
inductive Frame where
  | items (done : List Value)
  | member (done : List (WideText × Value)) (key : WideText)

inductive Build where
  | value (stack : List Frame)
  | firstItem (stack : List Frame)
  | firstKey (stack : List Frame)
  | key (done : List (WideText × Value)) (stack : List Frame)
  | colon (done : List (WideText × Value)) (key : WideText) (stack : List Frame)
  | afterItem (done : List Value) (stack : List Frame)
  | afterMember (done : List (WideText × Value)) (stack : List Frame)
  | finished (v : Value)

namespace Build

def give (v : Value) : List Frame → Build
  | [] => finished v
  | .items done :: stack => afterItem (v :: done) stack
  | .member done k :: stack => afterMember ((k, v) :: done) stack

def enter (stack : List Frame) : Token → Except ReadError Build
  | .atom v => .ok (give v stack)
  | .text t => .ok (give (.string t) stack)
  | .openArray => .ok (firstItem stack)
  | .openObject => .ok (firstKey stack)
  | _ => .error .misplaced

def step : Build → Token → Except ReadError Build
  | value stack, t => enter stack t
  | firstItem stack, .closeArray => .ok (give (.array []) stack)
  | firstItem stack, t => enter (.items [] :: stack) t
  | firstKey stack, .closeObject => .ok (give (.object []) stack)
  | firstKey stack, .text k => .ok (colon [] k stack)
  | key done stack, .text k => .ok (colon done k stack)
  | colon done k stack, .colon => .ok (value (.member done k :: stack))
  | afterItem done stack, .comma => .ok (value (.items done :: stack))
  | afterItem done stack, .closeArray => .ok (give (.array done.reverse) stack)
  | afterMember done stack, .comma => .ok (key done stack)
  | afterMember done stack, .closeObject =>
    .ok (give (.ofEntries done.reverse) stack)
  | _, _ => .error .misplaced

def finish : Build → Except ReadError Value
  | finished v => .ok v
  | _ => .error .unfinished

end Build

def readTokens (ts : List Token) : Except ReadError Value := do
  let s ← ts.foldlM Build.step (.value [])
  s.finish

def read (text : String) : Except ReadError Value := do
  let ts ← tokens text.toList
  readTokens ts

end CubeSlice.Json
