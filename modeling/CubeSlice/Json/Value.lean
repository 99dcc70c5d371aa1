import CubeSlice.Number.Shortest
import CubeSlice.Text.Wide

/-!
# Data values

A `Value` is a JSON value, or the absence of one. An object keeps its fields in property order: keys
that are array indices come first in numeric order, the others follow as they were first inserted,
and a repeated key keeps its place and takes the last value.
-/

namespace CubeSlice.Json

inductive Value where
  | absent
  | null
  | bool (b : Bool)
  | number (x : Number)
  | string (s : WideText)
  | array (items : List Value)
  | object (fields : List (WideText × Value))
  deriving Inhabited

abbrev Fields := List (WideText × Value)

namespace Fields

def get? (fields : Fields) (key : WideText) : Option Value :=
  (fields.find? (·.1 == key)).map (·.2)

/-- Sets the value of a key in place, or adds the key at the end. -/
def put {κ : Type} [BEq κ] (fields : List (κ × Value)) (key : κ) (value : Value) :
    List (κ × Value) :=
  match fields with
  | [] => [(key, value)]
  | (k, v) :: rest => if k == key then (k, value) :: rest else (k, v) :: put rest key value

def index? (key : WideText) : Option Nat :=
  let digits := key.toText.toList
  if digits.all Char.isDigit && !digits.isEmpty &&
      (digits == ['0'] || digits.head? != some '0') then
    let n := digitsValue digits
    if n < 4294967295 then some n else none
  else
    none

def isIndexed (field : WideText × Value) : Bool := (index? field.1).isSome

def indexOf (field : WideText × Value) : Nat := (index? field.1).getD 0

/-- Property order of distinct keys given in insertion order. -/
def arrange (fields : Fields) : Fields :=
  if fields.any isIndexed then
    (fields.filter isIndexed).mergeSort (fun a b => indexOf a ≤ indexOf b) ++
      fields.filter (!isIndexed ·)
  else
    fields

/-- Distinct keys with their last values, in the order of first insertion. -/
def settle {κ : Type} [BEq κ] (entries : List (κ × Value)) : List (κ × Value) :=
  entries.foldl (fun fields e => put fields e.1 e.2) []

def ofEntries (entries : List (WideText × Value)) : Fields := arrange (settle entries)

end Fields

namespace Value

def ofEntries (entries : List (WideText × Value)) : Value := object (Fields.ofEntries entries)

def field (v : Value) (key : WideText) : Value :=
  match v with
  | object fields => (Fields.get? fields key).getD absent
  | _ => absent

def isAbsent : Value → Bool
  | absent => true
  | _ => false

mutual

/-- Whether a value can be told inside a sentence. An object with a field named `toString` cannot,
because the field stands in for the way to tell it and is none; nor can an array that holds one. -/
def isTellable : Value → Bool
  | array items => areTellable items
  | object fields => fields.all (·.1 != "toString")
  | _ => true

def areTellable : List Value → Bool
  | [] => true
  | item :: rest => isTellable item && areTellable rest

end

def untold : String := "Cannot convert object to primitive value"

mutual

/-- How a value reads inside a sentence: strings bare, the items of an array joined by commas. -/
def display : Value → WideText
  | absent => "undefined"
  | null => "null"
  | bool b => if b then "true" else "false"
  | number x => x.text
  | string s => s
  | array items => displayItems "" true items
  | object _ => "[object Object]"

def displayItems (text : WideText) (first : Bool) : List Value → WideText
  | [] => text
  | item :: rest =>
    let text := if first then text else text ++ ","
    let shown := match item with
      | absent => ""
      | null => ""
      | other => display other
    displayItems (text ++ shown) false rest

end

end Value

end CubeSlice.Json
