import CubeSlice.Text.CombiningClass
import CubeSlice.Text.Composition

/-!
# Canonical composition

The composed normal form of a text: characters are taken apart, the marks between two characters of
class zero are put into the order of their classes, and pairs are put together again wherever
nothing stands between that blocks them.
-/

namespace CubeSlice.Text.Normal

/-- Takes a character apart; a pair may start with a character that is a pair again. -/
def splitChar : Nat → Char → List Char
  | 0, c => [c]
  | depth + 1, c =>
    match Composition.pair? c with
    | some (a, b) => splitChar depth a ++ [b]
    | none => [c]

def deepest : Nat := 4

def split (cs : List Char) : List Char := cs.flatMap (splitChar deepest)

def sortMarks (marks : List Char) : List Char :=
  marks.mergeSort fun a b => CombiningClass.of a ≤ CombiningClass.of b

def order (cs : List Char) : List Char :=
  let (done, marks) := cs.foldl (fun (done, marks) c =>
    if CombiningClass.of c = 0 then (c :: ((sortMarks marks.reverse).reverse ++ done), [])
    else (done, c :: marks)) ([], [])
  done.reverse ++ sortMarks marks.reverse

/-- A text that is being put together: what is finished, in reverse, then the character that takes
up what follows, and the marks that it has not taken up, in reverse. -/
structure Pending where
  done : List Char
  base : Char
  marks : List Char

namespace Pending

def toReversed (p : Pending) : List Char := p.marks ++ p.base :: p.done

def blocks (p : Pending) (cls : Nat) : Bool :=
  p.marks.head?.any fun last => cls ≤ CombiningClass.of last

def add (p : Pending) (c : Char) : Pending :=
  let cls := CombiningClass.of c
  let joined := if p.blocks cls then none else Composition.composite? p.base c
  match joined with
  | some base => { p with base }
  | none => if cls = 0 then ⟨p.toReversed, c, []⟩ else { p with marks := c :: p.marks }

end Pending

def join (cs : List Char) : List Char :=
  let isLoose (c : Char) : Bool := CombiningClass.of c != 0
  cs.takeWhile isLoose ++
    match cs.dropWhile isLoose with
    | [] => []
    | base :: rest => (rest.foldl Pending.add ⟨[], base, []⟩).toReversed.reverse

def compose (cs : List Char) : List Char := join (order (split cs))

end CubeSlice.Text.Normal
