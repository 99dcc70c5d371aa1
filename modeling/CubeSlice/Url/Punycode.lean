import CubeSlice.Url.Ip

/-!
# Punycode

International labels in ASCII form: the ASCII characters, a hyphen, and the others as differences in
a variable-length notation of base 36 whose thresholds adapt to what was read. Differences and
weights are limited to 31 bits; a label that needs more has no ASCII form.
-/

namespace CubeSlice.Url.Punycode

def digit? (c : Char) : Option Nat :=
  if 'a' ≤ c ∧ c ≤ 'z' then some (c.toNat - 'a'.toNat)
  else if 'A' ≤ c ∧ c ≤ 'Z' then some (c.toNat - 'A'.toNat)
  else if '0' ≤ c ∧ c ≤ '9' then some (c.toNat - '0'.toNat + 26)
  else none

def limit : Nat := 0x7FFFFFFF

def threshold (place bias : Nat) : Nat :=
  if place ≤ bias then 1 else if bias + 26 ≤ place then 26 else place - bias

def scale (delta place : Nat) : Nat × Nat :=
  if 455 < delta then scale (delta / 35) (place + 36) else (delta, place)
termination_by delta
decreasing_by exact Nat.div_lt_self (by omega) (by decide)

def adapt (delta count : Nat) (first : Bool) : Nat :=
  let delta := if first then delta / 700 else delta / 2
  let (delta, place) := scale (delta + delta / count) 0
  place + 36 * delta / (delta + 38)

/-- Where a decoder stands: the code points before and behind the place where the last one was
inserted, those before it last first, and how many there are; the code point and the place under
way; where the number under way started, and the weight and the place of its next digit. -/
structure State where
  before : List Nat
  behind : List Nat
  size : Nat
  code : Nat
  index : Nat
  start : Nat
  weight : Nat
  place : Nat
  bias : Nat

def initial (basic : List Char) : State :=
  ⟨[], basic.map Char.toNat, basic.length, 128, 0, 0, 1, 36, 72⟩

def State.partsAt (s : State) (place : Nat) : List Nat × List Nat :=
  if s.start ≤ place then
    ((s.behind.take (place - s.start)).reverse ++ s.before, s.behind.drop (place - s.start))
  else
    (s.before.drop (s.start - place), (s.before.take (s.start - place)).reverse ++ s.behind)

def State.insert (s : State) (code place bias : Nat) : State :=
  let (before, behind) := s.partsAt place
  ⟨code :: before, behind, s.size + 1, code, place + 1, place + 1, 1, 36, bias⟩

/-- Reads one digit; a digit below its threshold ends a number and inserts a character. -/
def step (s : State) (c : Char) : Option State := do
  let d ← digit? c
  let index := s.index + d * s.weight
  let t := threshold s.place s.bias
  if limit < index then none
  else if d < t then
    let count := s.size + 1
    let code := s.code + index / count
    if 0x10FFFF < code then none
    else some (s.insert code (index % count) (adapt (index - s.start) count (s.start == 0)))
  else if limit < s.weight * (36 - t) then none
  else
    some { s with index := index, weight := s.weight * (36 - t), place := s.place + 36 }

/-- The last hyphen parts the ASCII characters from the digits. -/
def split (cs : List Char) : List Char × List Char :=
  let tail := (cs.reverse.takeWhile (· != '-')).reverse
  if tail.length = cs.length then ([], cs) else (cs.take (cs.length - tail.length - 1), tail)

def decode? (cs : List Char) : Option (List Char) := do
  let (basic, digits) := split cs
  let s ← digits.foldlM step (initial basic)
  let points := s.before.reverse ++ s.behind
  if s.weight != 1 then none
  else points.mapM fun n => if n.isValidChar then some (Char.ofNat n) else none

/-- Where an encoder stands: the code point under way, the difference to be written next, and how
many characters have been written. -/
structure Progress where
  code : Nat
  difference : Nat
  written : Nat

def pass (code : Nat) (p : Progress) (c : Char) : Option Progress :=
  if c.toNat < code then
    if p.difference < limit then some { p with difference := p.difference + 1 } else none
  else if c.toNat = code then some { p with difference := 0, written := p.written + 1 }
  else some p

def advance (label : List Char) (p : Progress) (code : Nat) : Option Progress := do
  let difference := p.difference + (code - p.code) * (p.written + 1)
  if limit < difference then none
  else
    let p ← label.foldlM (pass code) ⟨code, difference, p.written⟩
    return ⟨code + 1, p.difference + 1, p.written⟩

def isEncodable (label : List Char) : Bool :=
  let codes := (label.map Char.toNat).filter (128 ≤ ·)
  let start : Progress := ⟨128, 0, label.length - codes.length⟩
  ((codes.mergeSort (· ≤ ·)).eraseReps.foldlM (advance label) start).isSome

end CubeSlice.Url.Punycode
