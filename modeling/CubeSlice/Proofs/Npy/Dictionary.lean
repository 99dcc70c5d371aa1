/-!
# Reading header dictionaries

A header line is a dictionary in braces, with quoted names, and with quoted texts, truth values and
tuples of sizes as values. It is first cut into pieces, blanks between them being left out, and the
pieces are then put together. Names may come in any order.
-/

namespace CubeSlice.Npy

inductive Piece where
  | mark (c : Char)
  | quoted (text : List Char)
  | word (letters : List Char)
  deriving DecidableEq

/-- What the next character belongs to; letters last first. -/
inductive Place where
  | between
  | quoted (text : List Char)
  | word (letters : List Char)
  deriving DecidableEq

structure Cutting where
  place : Place
  done : List Piece
  deriving DecidableEq

namespace Cutting

def isWordChar (c : Char) : Bool := c.isAlphanum || c == '_'

def isBlank (c : Char) : Bool := c == ' ' || c == '\n'

def isMark (c : Char) : Bool :=
  c == '\x7b' || c == '\x7d' || c == '(' || c == ')' || c == ',' || c == ':'

def alone (done : List Piece) (c : Char) : Option Cutting :=
  if isBlank c then some ⟨.between, done⟩
  else if isMark c then some ⟨.between, .mark c :: done⟩
  else none

def step (s : Cutting) (c : Char) : Option Cutting :=
  match s.place with
  | .between =>
    if c = '\'' then some ⟨.quoted [], s.done⟩
    else if isWordChar c then some ⟨.word [c], s.done⟩
    else alone s.done c
  | .quoted text =>
    if c = '\'' then some ⟨.between, .quoted text.reverse :: s.done⟩
    else some ⟨.quoted (c :: text), s.done⟩
  | .word letters =>
    if isWordChar c then some ⟨.word (c :: letters), s.done⟩
    else alone (.word letters.reverse :: s.done) c

end Cutting

def pieces (line : List Char) : Option (List Piece) :=
  match line.foldlM Cutting.step ⟨.between, []⟩ with
  | some ⟨.between, done⟩ => some done.reverse
  | _ => none

inductive Literal where
  | text (s : List Char)
  | truth (b : Bool)
  | sizes (ns : List Nat)

abbrev Dictionary := List (List Char × Literal)

inductive Awaited where
  | opening
  | name
  | colon (name : List Char)
  | value (name : List Char)
  | size (name : List Char) (done : List Nat)
  | afterSize (name : List Char) (done : List Nat)
  | afterValue
  | nothing

def size? (letters : List Char) : Option Nat :=
  if letters.all Char.isDigit then some (Nat.ofDigitChars 10 letters 0) else none

def truth? (letters : List Char) : Option Bool :=
  if letters = ['T', 'r', 'u', 'e'] then some true
  else if letters = ['F', 'a', 'l', 's', 'e'] then some false
  else none

structure Building where
  awaited : Awaited
  entries : Dictionary

def Building.step (b : Building) (p : Piece) : Option Building :=
  match b.awaited, p with
  | .opening, .mark '\x7b' => some ⟨.name, b.entries⟩
  | .name, .quoted name => some ⟨.colon name, b.entries⟩
  | .name, .mark '\x7d' => some ⟨.nothing, b.entries⟩
  | .colon name, .mark ':' => some ⟨.value name, b.entries⟩
  | .value name, .quoted text => some ⟨.afterValue, (name, .text text) :: b.entries⟩
  | .value name, .word w => (truth? w).map fun t => ⟨.afterValue, (name, .truth t) :: b.entries⟩
  | .value name, .mark '(' => some ⟨.size name [], b.entries⟩
  | .size name done, .word w => (size? w).map fun n => ⟨.afterSize name (n :: done), b.entries⟩
  | .size name done, .mark ')' => some ⟨.afterValue, (name, .sizes done.reverse) :: b.entries⟩
  | .afterSize name done, .mark ',' => some ⟨.size name done, b.entries⟩
  | .afterSize name done, .mark ')' => some ⟨.afterValue, (name, .sizes done.reverse) :: b.entries⟩
  | .afterValue, .mark ',' => some ⟨.name, b.entries⟩
  | .afterValue, .mark '\x7d' => some ⟨.nothing, b.entries⟩
  | _, _ => none

def dictionary? (line : List Char) : Option Dictionary := do
  let ps ← pieces line
  match ← ps.foldlM Building.step ⟨.opening, []⟩ with
  | ⟨.nothing, entries⟩ => some entries.reverse
  | _ => none

structure Header where
  description : List Char
  fortranOrder : Bool
  shape : List Nat

def header? (line : List Char) : Option Header := do
  let entries ← dictionary? line
  match entries.lookup "descr".toList, entries.lookup "fortran_order".toList,
    entries.lookup "shape".toList with
  | some (.text description), some (.truth fortranOrder), some (.sizes shape) =>
    some ⟨description, fortranOrder, shape⟩
  | _, _, _ => none

section Cutting

variable {done : List Piece} {letters digits text : List Char}

theorem isWordChar_of_isDigit {c : Char} (h : c.isDigit = true) : Cutting.isWordChar c = true := by
  simp [Cutting.isWordChar, Char.isAlphanum, h]

theorem foldlM_step_word (h : ∀ c ∈ digits, c.isDigit = true) :
    digits.foldlM Cutting.step ⟨.word letters, done⟩ = some ⟨.word (digits.reverse ++ letters), done⟩ := by
  induction digits generalizing letters with
  | nil => rfl
  | cons c cs ih =>
    have hStep : Cutting.step ⟨.word letters, done⟩ c = some ⟨.word (c :: letters), done⟩ :=
      if_pos (isWordChar_of_isDigit (h c List.mem_cons_self))
    have hRest := @ih (c :: letters) fun d hd => h d (List.mem_cons_of_mem c hd)
    rw [List.foldlM_cons, hStep, List.reverse_cons, List.append_assoc]
    exact hRest

theorem foldlM_step_digits (hSome : digits ≠ []) (h : ∀ c ∈ digits, c.isDigit = true) :
    digits.foldlM Cutting.step ⟨.between, done⟩ = some ⟨.word digits.reverse, done⟩ := by
  cases digits with
  | nil => exact absurd rfl hSome
  | cons c cs =>
    have hDigit := h c List.mem_cons_self
    have hQuote : c ≠ '\'' := by
      rintro rfl
      exact absurd hDigit (by decide)
    have hStep : Cutting.step ⟨.between, done⟩ c = some ⟨.word [c], done⟩ := by
      simp only [Cutting.step, if_neg hQuote, if_pos (isWordChar_of_isDigit hDigit)]
    have hRest := @foldlM_step_word done [c] cs fun d hd => h d (List.mem_cons_of_mem c hd)
    rw [List.foldlM_cons, hStep, List.reverse_cons]
    exact hRest

theorem foldlM_step_quoted (h : '\'' ∉ text) :
    text.foldlM Cutting.step ⟨.quoted letters, done⟩ = some ⟨.quoted (text.reverse ++ letters), done⟩ := by
  induction text generalizing letters with
  | nil => rfl
  | cons c cs ih =>
    obtain ⟨hFirst, hOthers⟩ := not_or.mp (mt List.mem_cons.mpr h)
    have hStep : Cutting.step ⟨.quoted letters, done⟩ c = some ⟨.quoted (c :: letters), done⟩ :=
      if_neg (Ne.symm hFirst)
    have hRest := @ih (c :: letters) hOthers
    rw [List.foldlM_cons, hStep, List.reverse_cons, List.append_assoc]
    exact hRest

theorem foldlM_step_blanks (n : Nat) :
    (List.replicate n ' ').foldlM Cutting.step ⟨.between, done⟩ = some ⟨.between, done⟩ := by
  induction n with
  | zero => rfl
  | succ n ih =>
    rw [List.replicate_succ, List.foldlM_cons]
    exact ih

end Cutting

theorem size?_toDigits (n : Nat) : size? (Nat.toDigits 10 n) = some n := by
  have hDigits : (Nat.toDigits 10 n).all Char.isDigit = true :=
    List.all_eq_true.mpr fun c hc => Nat.isDigit_of_mem_toDigits (by decide) (by decide) hc
  rw [size?, if_pos hDigits, Nat.ofDigitChars_ten_toDigits]

section Line

def opening : List Char := "\x7b'descr': '".toList

def order : List Char := "', 'fortran_order': False, 'shape': (".toList

def comma : List Char := ", ".toList

def closing : List Char := "), \x7d".toList

variable (letters : List Char) (done : List Piece)

theorem foldlM_step_opening : opening.foldlM Cutting.step ⟨.between, []⟩ =
    some ⟨.quoted [], [.mark ':', .quoted "descr".toList, .mark '\x7b']⟩ := by
  rfl

theorem foldlM_step_order : order.foldlM Cutting.step ⟨.quoted letters, done⟩ =
    some ⟨.between, .mark '(' :: .mark ':' :: .quoted "shape".toList :: .mark ',' ::
      .word "False".toList :: .mark ':' :: .quoted "fortran_order".toList :: .mark ',' ::
      .quoted letters.reverse :: done⟩ := by
  rfl

theorem foldlM_step_comma : comma.foldlM Cutting.step ⟨.word letters, done⟩ =
    some ⟨.between, .mark ',' :: .word letters.reverse :: done⟩ := by
  rfl

theorem foldlM_step_closing : closing.foldlM Cutting.step ⟨.word letters, done⟩ =
    some ⟨.between, .mark '\x7d' :: .mark ',' :: .mark ')' :: .word letters.reverse :: done⟩ := by
  rfl

end Line

def headerLine (description : List Char) (rows cols blanks : Nat) : List Char :=
  opening ++ (description ++ (order ++ (Nat.toDigits 10 rows ++ (comma ++ (Nat.toDigits 10 cols ++
    (closing ++ (List.replicate blanks ' ' ++ ['\n'])))))))

variable {description : List Char}

theorem pieces_headerLine (hPlain : '\'' ∉ description) (rows cols blanks : Nat) :
    pieces (headerLine description rows cols blanks) = some [.mark '\x7b', .quoted "descr".toList, .mark ':',
      .quoted description, .mark ',', .quoted "fortran_order".toList, .mark ':', .word "False".toList,
      .mark ',', .quoted "shape".toList, .mark ':', .mark '(', .word (Nat.toDigits 10 rows), .mark ',',
      .word (Nat.toDigits 10 cols), .mark ')', .mark ',', .mark '\x7d'] := by
  have hDigits (n : Nat) (done : List Piece) :
      (Nat.toDigits 10 n).foldlM Cutting.step ⟨.between, done⟩ =
        some ⟨.word (Nat.toDigits 10 n).reverse, done⟩ :=
    foldlM_step_digits Nat.toDigits_ne_nil fun c hc => Nat.isDigit_of_mem_toDigits (by decide) (by decide) hc
  have hNewline (done : List Piece) : ['\n'].foldlM Cutting.step ⟨.between, done⟩ =
      some ⟨.between, done⟩ := rfl
  simp only [pieces, headerLine, List.foldlM_append, Option.bind_eq_bind, Option.bind_some,
    foldlM_step_opening, foldlM_step_quoted hPlain, foldlM_step_order, hDigits, foldlM_step_comma,
    foldlM_step_closing, foldlM_step_blanks, hNewline, List.append_nil, List.reverse_reverse,
    List.reverse_cons, List.reverse_nil, List.nil_append, List.cons_append]

section Entries

variable (name : List Char) (rest : List Piece) (entries : Dictionary)

theorem foldlM_step_text (text : List Char) :
    (.quoted name :: .mark ':' :: .quoted text :: .mark ',' :: rest).foldlM Building.step ⟨.name, entries⟩ =
      rest.foldlM Building.step ⟨.name, (name, .text text) :: entries⟩ := rfl

theorem foldlM_step_truth {w : List Char} {b : Bool} (h : truth? w = some b) :
    (.quoted name :: .mark ':' :: .word w :: .mark ',' :: rest).foldlM Building.step ⟨.name, entries⟩ =
      rest.foldlM Building.step ⟨.name, (name, .truth b) :: entries⟩ := by
  have hStep : Building.step ⟨.value name, entries⟩ (.word w) =
      some ⟨.afterValue, (name, .truth b) :: entries⟩ := congrArg (Option.map _) h
  calc
    _ = (.word w :: .mark ',' :: rest).foldlM Building.step ⟨.value name, entries⟩ := rfl
    _ = (.mark ',' :: rest).foldlM Building.step ⟨.afterValue, (name, .truth b) :: entries⟩ := by
      rw [List.foldlM_cons, hStep]
      rfl
    _ = _ := rfl

theorem foldlM_step_size {w : List Char} {n : Nat} (h : size? w = some n) (done : List Nat) :
    (.word w :: rest).foldlM Building.step ⟨.size name done, entries⟩ =
      rest.foldlM Building.step ⟨.afterSize name (n :: done), entries⟩ := by
  have hStep : Building.step ⟨.size name done, entries⟩ (.word w) =
      some ⟨.afterSize name (n :: done), entries⟩ := congrArg (Option.map _) h
  rw [List.foldlM_cons, hStep]
  rfl

theorem foldlM_step_pair {v w : List Char} {m n : Nat} (hv : size? v = some m) (hw : size? w = some n) :
    (.quoted name :: .mark ':' :: .mark '(' :: .word v :: .mark ',' :: .word w :: .mark ')' :: .mark ',' ::
        rest).foldlM Building.step ⟨.name, entries⟩ =
      rest.foldlM Building.step ⟨.name, (name, .sizes [m, n]) :: entries⟩ := by
  calc
    _ = (.word v :: .mark ',' :: .word w :: .mark ')' :: .mark ',' :: rest).foldlM Building.step
          ⟨.size name [], entries⟩ := rfl
    _ = (.word w :: .mark ')' :: .mark ',' :: rest).foldlM Building.step ⟨.size name [m], entries⟩ :=
      foldlM_step_size name _ entries hv []
    _ = (.mark ')' :: .mark ',' :: rest).foldlM Building.step ⟨.afterSize name [n, m], entries⟩ :=
      foldlM_step_size name _ entries hw [m]
    _ = _ := rfl

end Entries

theorem dictionary?_headerLine (hPlain : '\'' ∉ description) (rows cols blanks : Nat) :
    dictionary? (headerLine description rows cols blanks) = some [("descr".toList, .text description),
      ("fortran_order".toList, .truth false), ("shape".toList, .sizes [rows, cols])] := by
  have hOpen (ps : List Piece) : (.mark '\x7b' :: ps).foldlM Building.step ⟨.opening, []⟩ =
      ps.foldlM Building.step ⟨.name, []⟩ := rfl
  have hClose (entries : Dictionary) : [.mark '\x7d'].foldlM Building.step ⟨.name, entries⟩ =
      some ⟨.nothing, entries⟩ := rfl
  have hFalse : truth? "False".toList = some false := rfl
  rw [dictionary?, pieces_headerLine hPlain, Option.bind_eq_bind, Option.bind_some, hOpen, foldlM_step_text,
    foldlM_step_truth _ _ _ hFalse, foldlM_step_pair _ _ _ (size?_toDigits rows) (size?_toDigits cols), hClose]
  rfl

theorem header?_headerLine (hPlain : '\'' ∉ description) (rows cols blanks : Nat) :
    header? (headerLine description rows cols blanks) = some ⟨description, false, [rows, cols]⟩ := by
  have hOrder : ("fortran_order".toList == "descr".toList) = false := by decide
  have hShape : ("shape".toList == "descr".toList) = false := by decide
  have hOther : ("shape".toList == "fortran_order".toList) = false := by decide
  rw [header?, dictionary?_headerLine hPlain]
  simp only [Option.bind_eq_bind, Option.bind_some, List.lookup_cons, BEq.rfl, hOrder, hShape, hOther]

end CubeSlice.Npy
