import CubeSlice.Json.Value
import CubeSlice.Number.Literal
import CubeSlice.Text.Digits

/-!
# Tokens

A data text is cut into tokens one character at a time: outside strings, white space and the marks
`[ ] { } , :` end a word, and a word is a number or one of `true`, `false`, `null`. Inside strings
everything from U+0020 on stands for itself except the quote and the backslash; an escape gives one
unit, which may be half of a pair.
-/

namespace CubeSlice.Json

inductive Token where
  | openArray
  | closeArray
  | openObject
  | closeObject
  | comma
  | colon
  | text (t : WideText)
  | atom (v : Value)

inductive ReadError where
  | character (c : Char)
  | word (text : String)
  | unfinished
  | misplaced

def ReadError.message : ReadError → String
  | character c => "unexpected character " ++ c.toString
  | word text => "unexpected word " ++ text
  | unfinished => "unexpected end of text"
  | misplaced => "unexpected value or mark"

/-- Where the scanner stands. Characters and units are collected last first. -/
inductive Scan where
  | gap
  | word (done : List Char)
  | text (done : List UInt16)
  | escape (done : List UInt16)
  | unicode (done : List UInt16) (digits : Nat) (code : Nat)

structure Lexer where
  scan : Scan
  done : List Token

def isBlank (c : Char) : Bool := c == ' ' || c == '\t' || c == '\n' || c == '\r'

def mark? (c : Char) : Option Token :=
  match c with
  | '[' => some .openArray
  | ']' => some .closeArray
  | '\x7b' => some .openObject
  | '\x7d' => some .closeObject
  | ',' => some .comma
  | ':' => some .colon
  | _ => none

def readWord (cs : List Char) : Except ReadError Value :=
  if cs = ['n', 'u', 'l', 'l'] then .ok .null
  else if cs = ['t', 'r', 'u', 'e'] then .ok (.bool true)
  else if cs = ['f', 'a', 'l', 's', 'e'] then .ok (.bool false)
  else match Number.ofLiteral? cs with
    | some x => .ok (.number x)
    | none => .error (.word (String.ofList cs))

def escaped? (c : Char) : Option UInt16 :=
  match c with
  | '"' => some 0x22
  | '\\' => some 0x5C
  | '/' => some 0x2F
  | 'b' => some 8
  | 'f' => some 12
  | 'n' => some 10
  | 'r' => some 13
  | 't' => some 9
  | _ => none

def stepGap (done : List Token) (c : Char) : Lexer :=
  if isBlank c then ⟨.gap, done⟩
  else if c = '"' then ⟨.text [], done⟩
  else match mark? c with
    | some t => ⟨.gap, t :: done⟩
    | none => ⟨.word [c], done⟩

def endsWord (c : Char) : Bool := isBlank c || c == '"' || (mark? c).isSome

def Lexer.step (s : Lexer) (c : Char) : Except ReadError Lexer :=
  match s.scan with
  | .gap => .ok (stepGap s.done c)
  | .word cs =>
    if endsWord c then do
      let v ← readWord cs.reverse
      .ok (stepGap (.atom v :: s.done) c)
    else
      .ok ⟨.word (c :: cs), s.done⟩
  | .text us =>
    if c = '"' then .ok ⟨.gap, .text ⟨us.reverse⟩ :: s.done⟩
    else if c = '\\' then .ok ⟨.escape us, s.done⟩
    else if c.toNat < 0x20 then .error (.character c)
    else .ok ⟨.text ((WideText.charUnits c).reverse ++ us), s.done⟩
  | .escape us =>
    if c = 'u' then .ok ⟨.unicode us 0 0, s.done⟩
    else match escaped? c with
      | some u => .ok ⟨.text (u :: us), s.done⟩
      | none => .error (.character c)
  | .unicode us digits code =>
    match Text.digitOf? 16 c with
    | none => .error (.character c)
    | some d =>
      let code := code * 16 + d
      if digits < 3 then .ok ⟨.unicode us (digits + 1) code, s.done⟩
      else .ok ⟨.text (UInt16.ofNat code :: us), s.done⟩

def Lexer.finish (s : Lexer) : Except ReadError (List Token) :=
  match s.scan with
  | .gap => .ok s.done.reverse
  | .word cs => do
    let v ← readWord cs.reverse
    .ok (Token.atom v :: s.done).reverse
  | _ => .error .unfinished

def tokens (cs : List Char) : Except ReadError (List Token) := do
  let s ← cs.foldlM Lexer.step ⟨.gap, []⟩
  s.finish

end CubeSlice.Json
