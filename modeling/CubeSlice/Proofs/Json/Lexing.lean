import CubeSlice.Json.Printer
import CubeSlice.Json.Token
import CubeSlice.Proofs.Number.Text
import CubeSlice.Proofs.Text.Wide
import CubeSlice.Proofs.Traversal

/-!
# The tokens of printed values

Every value has a list of tokens, built along its structure, and cutting its printed text gives that list. Words
stay open until a mark or the end of the text closes them, so what is kept along a text is that its tokens are
settled once it is closed.
-/

namespace CubeSlice.Json

theorem digitOf?_hexDigit (n : Nat) : Text.digitOf? 16 (hexDigit n) = some (n % 16) := by
  have hDigit : ∀ k : Fin 16, Text.digitOf? 16 (Nat.digitChar k) = some k.val := by decide
  exact hDigit ⟨n % 16, Nat.mod_lt _ (by decide)⟩

variable (done : List Token)

theorem foldlM_unicode (n : Nat) (hn : n < 0x10000) (us : List UInt16) :
    ['\\', 'u', hexDigit (n / 0x1000), hexDigit (n / 0x100), hexDigit (n / 0x10), hexDigit n].foldlM Lexer.step
      ⟨.text us, done⟩ = .ok ⟨.text (UInt16.ofNat n :: us), done⟩ := by
  have hCode : ((n / 0x1000 % 16 * 16 + n / 0x100 % 16) * 16 + n / 0x10 % 16) * 16 + n % 16 = n := by omega
  simp [Lexer.step, digitOf?_hexDigit, hCode, bind, Except.bind, pure, Except.pure]

theorem foldlM_escapeChar (c : Char) (us : List UInt16) :
    (escapeChar c).foldlM Lexer.step ⟨.text us, done⟩ =
      .ok ⟨.text ((WideText.charUnits c).reverse ++ us), done⟩ := by
  have hShort (letter : Char) (unit : Nat) (hLetter : escaped? letter = some (UInt16.ofNat unit)) (hu : letter ≠ 'u')
      (hUnit : c.toNat = unit) (hUnits : WideText.charUnits c = [UInt16.ofNat c.toNat]) :
      ['\\', letter].foldlM Lexer.step ⟨.text us, done⟩ =
        .ok ⟨.text ((WideText.charUnits c).reverse ++ us), done⟩ := by
    simp [Lexer.step, hLetter, hu, hUnits, hUnit, bind, Except.bind, pure, Except.pure]
  unfold escapeChar
  split
  · subst c
    exact hShort '"' 0x22 rfl (by decide) rfl rfl
  split
  · subst c
    exact hShort '\\' 0x5C rfl (by decide) rfl rfl
  split
  · rename_i hControl
    have hUnits : WideText.charUnits c = [UInt16.ofNat c.toNat] := if_pos (Nat.lt_trans hControl (by decide))
    split
    · exact hShort 'b' 8 rfl (by decide) (by assumption) hUnits
    split
    · exact hShort 't' 9 rfl (by decide) (by assumption) hUnits
    split
    · exact hShort 'n' 10 rfl (by decide) (by assumption) hUnits
    split
    · exact hShort 'f' 12 rfl (by decide) (by assumption) hUnits
    split
    · exact hShort 'r' 13 rfl (by decide) (by assumption) hUnits
    · have hCode := foldlM_unicode done c.toNat (Nat.lt_trans hControl (by decide)) us
      rw [Nat.div_eq_of_lt (Nat.lt_trans hControl (by decide)), Nat.div_eq_of_lt (Nat.lt_trans hControl (by decide))]
        at hCode
      rw [hUnits]
      exact hCode
  · rename_i hQuote hBackslash hControl
    have hStep : Lexer.step ⟨.text us, done⟩ c = .ok ⟨.text ((WideText.charUnits c).reverse ++ us), done⟩ := by
      simp [Lexer.step, hQuote, hBackslash, hControl]
    rw [List.foldlM_cons, hStep, Traversal.ok_bind]
    rfl

theorem foldlM_escape (part : WideText.Scalar) (us : List UInt16) :
    (escape part).foldlM Lexer.step ⟨.text us, done⟩ = .ok ⟨.text (part.units.reverse ++ us), done⟩ := by
  cases part with
  | char c => exact foldlM_escapeChar done c us
  | half u =>
    have hUnit := foldlM_unicode done u.toNat u.toNat_lt us
    rw [UInt16.ofNat_toNat] at hUnit
    exact hUnit

theorem foldlM_escaped (parts : List WideText.Scalar) (us : List UInt16) :
    (parts.flatMap escape).foldlM Lexer.step ⟨.text us, done⟩ =
      .ok ⟨.text ((parts.flatMap WideText.Scalar.units).reverse ++ us), done⟩ := by
  induction parts generalizing us with
  | nil => rfl
  | cons part parts ih =>
    rw [List.flatMap_cons, List.foldlM_append, foldlM_escape, Traversal.ok_bind, ih, List.flatMap_cons,
      List.reverse_append, List.append_assoc]

theorem foldlM_quote (t : WideText) :
    (quote t).toList.foldlM Lexer.step ⟨.gap, done⟩ = .ok ⟨.gap, .text t :: done⟩ := by
  have hOpen : Lexer.step ⟨.gap, done⟩ '"' = .ok ⟨.text [], done⟩ := rfl
  have hClose (us : List UInt16) :
      ['"'].foldlM Lexer.step ⟨.text us, done⟩ = .ok ⟨.gap, .text ⟨us.reverse⟩ :: done⟩ := rfl
  rw [quote, String.toList_ofList, List.cons_append, List.foldlM_cons, hOpen, Traversal.ok_bind, List.foldlM_append,
    foldlM_escaped, Traversal.ok_bind, hClose, List.append_nil, WideText.flatMap_units_scalars, List.reverse_reverse]

structure IsWord (cs : List Char) (v : Value) : Prop where
  ne_nil : cs ≠ []
  goesOn : ∀ c ∈ cs, endsWord c = false
  read : readWord cs = .ok v

/-- What the text of a number stands for; only finite numbers have one of their own. -/
def ofNumberText : Number → Value
  | .finite negative n held => .number (Number.finite negative n held).asWritten
  | _ => .null

variable {done}

theorem goesOn_of_any {cs : List Char} (h : cs.any endsWord = false) : ∀ c ∈ cs, endsWord c = false :=
  fun c hc => Bool.eq_false_iff.mpr (List.any_eq_false.mp h c hc)

theorem isWord_null : IsWord "null".toList .null := ⟨by decide, goesOn_of_any (by decide), rfl⟩

theorem isWord_bool (b : Bool) : IsWord (if b then "true" else "false").toList (.bool b) := by
  cases b <;> exact ⟨by decide, goesOn_of_any (by decide), rfl⟩

theorem readWord_of_ofLiteral? {cs : List Char} {x : Number} (h : Number.ofLiteral? cs = some x) :
    readWord cs = .ok (.number x) := by
  have hWord : ∀ word ∈ [['n', 'u', 'l', 'l'], ['t', 'r', 'u', 'e'], ['f', 'a', 'l', 's', 'e']],
      Number.ofLiteral? word = none := by decide
  have hNe : ∀ word ∈ [['n', 'u', 'l', 'l'], ['t', 'r', 'u', 'e'], ['f', 'a', 'l', 's', 'e']], cs ≠ word := by
    rintro word hMem rfl
    rw [hWord cs hMem] at h
    cases h
  rw [readWord, if_neg (hNe _ (by simp)), if_neg (hNe _ (by simp)), if_neg (hNe _ (by simp)), h]

theorem endsWord_of_isLiteralChar {c : Char} (h : Number.isLiteralChar c = true) : endsWord c = false := by
  have hEnds : ['[', ']', '\x7b', '\x7d', ',', ':', ' ', '\t', '\n', '\r', '"'].any Number.isLiteralChar = false := by
    decide
  have hNe : ∀ d ∈ ['[', ']', '\x7b', '\x7d', ',', ':', ' ', '\t', '\n', '\r', '"'], c ≠ d := by
    rintro d hd rfl
    exact List.any_eq_false.mp hEnds c hd h
  have hMark : mark? c = none := by
    unfold mark?
    split <;> first | rfl | exact absurd rfl (hNe _ (by decide))
  simp only [List.forall_mem_cons] at hNe
  obtain ⟨-, -, -, -, -, -, hSpace, hTab, hLine, hReturn, hQuote, -⟩ := hNe
  simp [endsWord, isBlank, hMark, hSpace, hTab, hLine, hReturn, hQuote]

theorem isWord_numberText (x : Number) : IsWord (numberText x).toList (ofNumberText x) := by
  cases x with
  | nan => exact isWord_null
  | infinite negative => exact isWord_null
  | finite negative n held =>
    have hRead := Number.ofLiteral?_text negative held
    refine ⟨?_, fun c hc => endsWord_of_isLiteralChar (Number.isLiteralChar_of_mem_text negative held hc),
      readWord_of_ofLiteral? hRead⟩
    intro hNil
    rw [numberText] at hNil
    rw [hNil] at hRead
    cases hRead

/-- A scanner whose tokens are these, last first, as soon as a mark or the end of the text closes its word. -/
structure Lexer.Closes (s : Lexer) (ts : List Token) : Prop where
  finish : s.finish = .ok ts.reverse
  step : ∀ c, endsWord c = true → s.step c = .ok (stepGap ts c)

theorem Lexer.closes_gap (ts : List Token) : Closes ⟨.gap, ts⟩ ts := ⟨rfl, fun _ _ => rfl⟩

theorem stepGap_of_goesOn {c : Char} (h : endsWord c = false) : stepGap done c = ⟨.word [c], done⟩ := by
  simp only [endsWord, Bool.or_eq_false_iff, beq_eq_false_iff_ne, ne_eq, Option.isSome_eq_false_iff,
    Option.isNone_iff_eq_none] at h
  obtain ⟨⟨hBlank, hQuote⟩, hMark⟩ := h
  simp [stepGap, hBlank, hQuote, hMark]

theorem foldlM_word {cs : List Char} (h : ∀ c ∈ cs, endsWord c = false) (before : List Char) :
    cs.foldlM Lexer.step ⟨.word before, done⟩ = .ok ⟨.word (cs.reverse ++ before), done⟩ := by
  induction cs generalizing before with
  | nil => rfl
  | cons c cs ih =>
    have hStep : Lexer.step ⟨.word before, done⟩ c = .ok ⟨.word (c :: before), done⟩ := by
      simp [Lexer.step, h c List.mem_cons_self]
    rw [List.foldlM_cons, hStep, Traversal.ok_bind, ih fun d hd => h d (List.mem_cons_of_mem c hd)]
    simp

theorem IsWord.foldlM {cs : List Char} {v : Value} (h : IsWord cs v) :
    ∃ s, cs.foldlM Lexer.step ⟨.gap, done⟩ = .ok s ∧ s.Closes (.atom v :: done) := by
  obtain ⟨c, rest, rfl⟩ := List.exists_cons_of_ne_nil h.ne_nil
  have hRead : readWord (rest.reverse ++ [c]).reverse = .ok v := by
    rw [List.reverse_append, List.reverse_reverse]
    exact h.read
  have hFirst : Lexer.step ⟨.gap, done⟩ c = .ok ⟨.word [c], done⟩ :=
    congrArg Except.ok (stepGap_of_goesOn (h.goesOn c List.mem_cons_self))
  refine ⟨⟨.word (rest.reverse ++ [c]), done⟩, ?_, ?_, ?_⟩
  · rw [List.foldlM_cons, hFirst, Traversal.ok_bind,
      foldlM_word fun d hd => h.goesOn d (List.mem_cons_of_mem c hd)]
  · simp only [Lexer.finish, hRead, Traversal.ok_bind]
  · intro d hd
    simp only [Lexer.step, hd, if_true, hRead, Traversal.ok_bind]

def separator (first : Bool) : List Token := if first then [] else [.comma]

@[simp] theorem reverse_separator (first : Bool) : (separator first).reverse = separator first := by
  cases first <;> rfl

mutual

def Value.tokens : Value → List Token
  | .absent => [.atom .null]
  | .null => [.atom .null]
  | .bool b => [.atom (.bool b)]
  | .number x => [.atom (ofNumberText x)]
  | .string s => [.text s]
  | .array items => .openArray :: itemTokens true items ++ [.closeArray]
  | .object fields => .openObject :: fieldTokens true fields ++ [.closeObject]

def itemTokens (first : Bool) : List Value → List Token
  | [] => []
  | item :: rest => separator first ++ item.tokens ++ itemTokens false rest

def fieldTokens (first : Bool) : List (WideText × Value) → List Token
  | [] => []
  | (key, value) :: rest =>
    if value.isAbsent then fieldTokens first rest
    else separator first ++ [.text key, .colon] ++ value.tokens ++ fieldTokens false rest

end

def lex (text : String) : Except ReadError Lexer := text.toList.foldlM Lexer.step ⟨.gap, []⟩

/-- A text whose tokens are these, last first, once it is closed. -/
def Lexes (text : String) (ts : List Token) : Prop := ∃ s, lex text = .ok s ∧ s.Closes ts

def Rests (text : String) (ts : List Token) : Prop := lex text = .ok ⟨.gap, ts⟩

variable {text : String}

theorem Rests.lexes (h : Rests text done) : Lexes text done := ⟨_, h, Lexer.closes_gap done⟩

theorem lex_append (text more : String) :
    lex (text ++ more) = lex text >>= fun s => more.toList.foldlM Lexer.step s := by
  rw [lex, String.toList_append, List.foldlM_append]
  rfl

theorem lex_push (text : String) (c : Char) : lex (text.push c) = lex text >>= fun s => s.step c := by
  rw [lex, String.toList_push, List.foldlM_append]
  simp only [List.foldlM_cons, List.foldlM_nil, bind_pure]
  rfl

theorem stepGap_of_mark? {c : Char} {t : Token} (h : mark? c = some t) : stepGap done c = ⟨.gap, t :: done⟩ := by
  have hPlain : isBlank c = false ∧ c ≠ '"' := by
    unfold mark? at h
    split at h <;> first | exact ⟨by decide, by decide⟩ | cases h
  simp [stepGap, hPlain, h]

theorem Lexes.push (h : Lexes text done) {c : Char} {t : Token} (hc : mark? c = some t) :
    Rests (text.push c) (t :: done) := by
  obtain ⟨s, hText, hCloses⟩ := h
  have hEnds : endsWord c = true := by simp [endsWord, hc]
  rw [Rests, lex_push, hText, Traversal.ok_bind, hCloses.step c hEnds, stepGap_of_mark? hc]

theorem Rests.word (h : Rests text done) {word : String} {v : Value} (hWord : IsWord word.toList v) :
    Lexes (text ++ word) (.atom v :: done) := by
  obtain ⟨s, hStep, hCloses⟩ := hWord.foldlM
  exact ⟨s, by rw [lex_append, h, Traversal.ok_bind, hStep], hCloses⟩

theorem Rests.quote (h : Rests text done) (t : WideText) :
    Rests (text ++ quote t) (.text t :: done) := by
  rw [Rests, lex_append, h, Traversal.ok_bind, foldlM_quote]

theorem Lexes.separated (h : Lexes text done) {first : Bool} (hFirst : first = true → Rests text done) :
    Rests (if first then text else text.push ',') (separator first ++ done) := by
  cases first with
  | true => exact hFirst rfl
  | false => exact h.push rfl

mutual

theorem lexes_write (v : Value) (text : String) (done : List Token) (h : Rests text done) :
    Lexes (v.write text) (v.tokens.reverse ++ done) := by
  cases v with
  | absent => exact h.word isWord_null
  | null => exact h.word isWord_null
  | bool b => exact h.word (isWord_bool b)
  | number x => exact h.word (isWord_numberText x)
  | string s => exact (h.quote s).lexes
  | array items =>
    have hOpen := h.lexes.push (c := '[') rfl
    have hItems := lexes_writeItems items _ true _ hOpen.lexes fun _ => hOpen
    have hClose := hItems.push (c := ']') rfl
    rw [Value.write, Value.tokens]
    simpa using hClose.lexes
  | object fields =>
    have hOpen := h.lexes.push (c := '\x7b') rfl
    have hFields := lexes_writeFields fields _ true _ hOpen.lexes fun _ => hOpen
    have hClose := hFields.push (c := '\x7d') rfl
    rw [Value.write, Value.tokens]
    simpa using hClose.lexes

theorem lexes_writeItems (items : List Value) (text : String) (first : Bool) (done : List Token)
    (h : Lexes text done) (hFirst : first = true → Rests text done) :
    Lexes (Value.writeItems text first items) ((itemTokens first items).reverse ++ done) := by
  cases items with
  | nil => exact h
  | cons item rest =>
    have hItem := lexes_write item _ _ (h.separated hFirst)
    have hRest := lexes_writeItems rest _ false _ hItem nofun
    rw [Value.writeItems, itemTokens]
    simpa using hRest

theorem lexes_writeFields (fields : List (WideText × Value)) (text : String) (first : Bool) (done : List Token)
    (h : Lexes text done) (hFirst : first = true → Rests text done) :
    Lexes (Value.writeFields text first fields) ((fieldTokens first fields).reverse ++ done) := by
  match fields with
  | [] => exact h
  | (key, value) :: rest =>
    rw [Value.writeFields, fieldTokens]
    split
    · exact lexes_writeFields rest text first done h hFirst
    · have hKey := (((h.separated hFirst).quote key).lexes.push (c := ':') rfl)
      have hValue := lexes_write value _ _ hKey
      have hRest := lexes_writeFields rest _ false _ hValue nofun
      simpa using hRest

end

theorem tokens_print (v : Value) : tokens v.print.toList = .ok v.tokens := by
  have hEmpty : Rests "" [] := rfl
  obtain ⟨s, hText, hCloses⟩ := lexes_write v "" [] hEmpty
  have hFinish := hCloses.finish
  rw [List.append_nil, List.reverse_reverse] at hFinish
  show lex v.print >>= Lexer.finish = _
  rw [Value.print, hText, Traversal.ok_bind, hFinish]

end CubeSlice.Json
