import CubeSlice.Json.Value
import CubeSlice.Number.Count

/-!
# Checking data values

A `Check` turns a data value into something typed or reports the first violation: the path to the
offending value and the reason. Fields are checked in the order in which a check asks for them, the
items of an array by index and the fields of a record in property order.
-/

namespace CubeSlice.Schema

/-- A step into a value: to a field that is asked for, to an entry of a record, or to an item. -/
inductive Step where
  | key (name : String)
  | entry (name : WideText)
  | index (i : Nat)
  deriving DecidableEq

def Step.text : Step → WideText
  | key name => name
  | entry name => name
  | index i => toString i

abbrev Path := List Step

def Path.text (p : Path) : WideText := WideText.intercalate "." (p.map Step.text)

inductive Kind where
  | undefined
  | null
  | boolean
  | number
  | nan
  | string
  | array
  | object
  deriving DecidableEq

def Kind.name : Kind → String
  | undefined => "undefined"
  | null => "null"
  | boolean => "boolean"
  | number => "number"
  | nan => "nan"
  | string => "string"
  | array => "array"
  | object => "object"

def Kind.of : Json.Value → Kind
  | .absent => .undefined
  | .null => .null
  | .bool _ => .boolean
  | .number x => if x.isNaN then .nan else .number
  | .string _ => .string
  | .array _ => .array
  | .object _ => .object

inductive Reason where
  | required
  | wrongKind (expected received : Kind)
  | notInteger
  | negative
  | aboveMaximum
  deriving DecidableEq

def Reason.message : Reason → String
  | required => "Required"
  | wrongKind expected received => "Expected " ++ expected.name ++ ", received " ++ received.name
  | notInteger => "Expected integer, received float"
  | negative => "Number must be greater than or equal to 0"
  | aboveMaximum => "Number must be less than or equal to " ++ toString maxSafe

structure Violation where
  path : Path
  reason : Reason
  deriving DecidableEq

abbrev Check (α : Type) := Json.Value → Except Violation α

def mismatch {α : Type} (expected : Kind) (v : Json.Value) : Except Violation α :=
  match v with
  | .absent => .error ⟨[], .required⟩
  | other => .error ⟨[], .wrongKind expected (Kind.of other)⟩

def within {α : Type} (step : Step) (result : Except Violation α) : Except Violation α :=
  result.mapError fun e => ⟨step :: e.path, e.reason⟩

def number : Check Number
  | .number x => if x.isNaN then mismatch .number (.number x) else .ok x
  | v => mismatch .number v

/-- An integer that is not negative, of any size. -/
def natural : Check Number := fun v => do
  let x ← number v
  if !x.isInteger then .error ⟨[], .notInteger⟩
  else if x.lt Number.zero then .error ⟨[], .negative⟩
  else .ok x

def count : Check Count := fun v => do
  let x ← natural v
  match Count.ofNumber? x with
  | some c => .ok c
  | none => .error ⟨[], .aboveMaximum⟩

def string : Check WideText
  | .string s => .ok s
  | v => mismatch .string v

def optional {α : Type} (check : Check α) : Check (Option α)
  | .absent => .ok none
  | v => (check v).map some

def items {α : Type} (check : Check α) : Check (List α)
  | .array vs => vs.zipIdx.mapM fun (v, i) => within (.index i) (check v)
  | v => mismatch .array v

def fields : Check Json.Fields
  | .object fs => .ok fs
  | v => mismatch .object v

def field {α : Type} (fs : Json.Fields) (name : String) (check : Check α) : Except Violation α :=
  within (.key name) (check ((fs.get? name).getD .absent))

/-- An object whose fields all pass the same check. A field named `__proto__` is checked and left
out. -/
def record {α : Type} (check : Check α) : Check (List (WideText × α)) := fun v => do
  let fs ← fields v
  let entries ← fs.mapM fun (name, v) => do
    let x ← within (.entry name) (check v)
    return (name, x)
  return entries.filter (·.1 != "__proto__")

end CubeSlice.Schema
