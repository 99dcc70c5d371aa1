import CubeSlice.Json.Value

/-!
# Logging

Calls of a logger come from a scope, which the lines on the console carry in front. One level decides
for all scopes which methods are heard: a call gives a line if the rank of its method is at most the
rank of the level.
-/

namespace CubeSlice.Log

inductive Level where
  | silent
  | error
  | warn
  | info
  | debug
  deriving DecidableEq, Repr

namespace Level

def name : Level → String
  | silent => "silent"
  | error => "error"
  | warn => "warn"
  | info => "info"
  | debug => "debug"

def all : List Level := [silent, error, warn, info, debug]

def ofName? (s : String) : Option Level := all.find? (·.name == s)

theorem ofName?_name (l : Level) : ofName? l.name = some l := by
  cases l <;> rfl

def rank : Level → Nat
  | silent => 0
  | error => 1
  | warn => 2
  | info => 3
  | debug => 4

def initial (setting : Option String) : Level := (setting.bind ofName?).getD warn

end Level

inductive Method where
  | error
  | warn
  | info
  | debug
  deriving DecidableEq, Repr

namespace Method

def level : Method → Level
  | error => .error
  | warn => .warn
  | info => .info
  | debug => .debug

def name (m : Method) : String := m.level.name

def ofName? (s : String) : Option Method := [error, warn, info, debug].find? (·.name == s)

end Method

/-- What a logger is asked to say. -/
structure Call where
  method : Method
  scope : String
  args : List Json.Value

/-- What the console shows. -/
structure Line where
  method : Method
  args : List Json.Value

def Call.line (c : Call) : Line := ⟨c.method, .string ("[" ++ c.scope ++ "]") :: c.args⟩

def heard (level : Level) (method : Method) : Bool := method.level.rank ≤ level.rank

end CubeSlice.Log
