import CubeSlice.Proofs.Number.Text
import CubeSlice.Text.Blank
import CubeSlice.Text.Digits

/-!
# Reading numbers

`Number.ofText` takes a whole text as a number. Blanks around it do not count, an empty text is zero, and decimals are
spelled more freely than literals: zeros may stand in front, the point may stand at either end, and a plus sign is
allowed. There are words for the infinities and marks for other radices; everything else is not a number. The text of
a number reads as that number, zeros without their sign.
-/

namespace CubeSlice.Number

def splitFraction : List Char → List Char × List Char
  | '.' :: cs => (cs.takeWhile Char.isDigit, cs.dropWhile Char.isDigit)
  | cs => ([], cs)

def readPower? : List Char → Option Int
  | [] => some 0
  | c :: cs => if c = 'e' ∨ c = 'E' then readExponent? cs else none

/-- A decimal has at least one digit before or behind its point. -/
def readDecimal? (negative : Bool) (cs : List Char) : Option Number :=
  let whole := cs.takeWhile Char.isDigit
  let fraction := (splitFraction (cs.dropWhile Char.isDigit)).1
  let rest := (splitFraction (cs.dropWhile Char.isDigit)).2
  if whole.isEmpty && fraction.isEmpty then none
  else (readPower? rest).map fun exponent =>
    ofDecimal negative (digitsValue (whole ++ fraction)) (exponent - fraction.length)

def readMagnitude? (negative : Bool) (cs : List Char) : Option Number :=
  if cs = "Infinity".toList then some (infinite negative) else readDecimal? negative cs

def readSigned? : List Char → Option Number
  | '-' :: cs => readMagnitude? true cs
  | '+' :: cs => readMagnitude? false cs
  | cs => readMagnitude? false cs

def radixOf? (mark : Char) : Option Nat :=
  if mark = 'x' ∨ mark = 'X' then some 16
  else if mark = 'o' ∨ mark = 'O' then some 8
  else if mark = 'b' ∨ mark = 'B' then some 2
  else none

def readRadix? : List Char → Option Number
  | '0' :: mark :: d :: cs => do
    let radix ← radixOf? mark
    let n ← Text.natOf? radix (d :: cs)
    return ofNat n
  | _ => none

def strip (cs : List Char) : List Char := ((cs.dropWhile Text.isBlank).reverse.dropWhile Text.isBlank).reverse

/-- The number that a text is taken as. -/
def ofText (text : List Char) : Number :=
  match strip text with
  | [] => zero
  | cs => ((readSigned? cs).or (readRadix? cs)).getD nan

variable {s : Bool} {x : Number} {cs fraction : List Char} {e : Int}

theorem readTail?_splitFraction (h : readTail? cs = some (fraction, e)) :
    (splitFraction cs).1 = fraction ∧ readPower? (splitFraction cs).2 = some e := by
  unfold readTail? at h
  split at h
  · cases h
    exact ⟨rfl, rfl⟩
  · rename_i rest
    dsimp only at h
    split at h
    · cases h
    · rw [splitFraction]
      split at h
      · rename_i hEnd
        cases h
        rw [hEnd]
        exact ⟨rfl, rfl⟩
      · rename_i c exponent hEnd
        split at h
        · rename_i hLetter
          obtain ⟨power, hPower, hPair⟩ := Option.map_eq_some_iff.mp h
          cases hPair
          rw [hEnd, readPower?, if_pos hLetter]
          exact ⟨rfl, hPower⟩
        · cases h
  · rename_i c exponent hPoint
    split at h
    · rename_i hLetter
      obtain ⟨power, hPower, hPair⟩ := Option.map_eq_some_iff.mp h
      cases hPair
      have hSplit : splitFraction (c :: exponent) = ([], c :: exponent) := by
        unfold splitFraction
        split
        · rename_i hHead
          exact absurd (List.cons.inj hHead).1 hPoint
        · rfl
      rw [hSplit, readPower?, if_pos hLetter]
      exact ⟨rfl, hPower⟩
    · cases h

theorem readDecimal?_of_readUnsigned? (h : readUnsigned? s cs = some x) : readDecimal? s cs = some x := by
  unfold readUnsigned? at h
  dsimp only at h
  split at h
  · rename_i hWhole
    obtain ⟨⟨fraction, e⟩, hTail, rfl⟩ := Option.map_eq_some_iff.mp h
    obtain ⟨hFraction, hPower⟩ := readTail?_splitFraction hTail
    have hSome : (cs.takeWhile Char.isDigit).isEmpty = false := by
      apply List.isEmpty_eq_false_iff.mpr
      intro hNone
      rw [hNone] at hWhole
      cases hWhole
    simp only [readDecimal?, hSome, Bool.false_and, Bool.false_eq_true, if_false, hFraction, hPower, Option.map_some]
  · cases h

theorem readMagnitude?_of_readUnsigned? (h : readUnsigned? s cs = some x) : readMagnitude? s cs = some x := by
  have hWord : cs ≠ "Infinity".toList := by
    rintro rfl
    cases h
  rw [readMagnitude?, if_neg hWord, readDecimal?_of_readUnsigned? h]

theorem readSigned?_of_ofLiteral? (h : ofLiteral? cs = some x) : readSigned? cs = some x := by
  unfold ofLiteral? at h
  split at h
  · exact readMagnitude?_of_readUnsigned? h
  · rename_i hMinus
    unfold readSigned?
    split
    · exact absurd rfl (hMinus _)
    · cases h
    · exact readMagnitude?_of_readUnsigned? h

theorem strip_of_not_blank (h : ∀ c ∈ cs, Text.isBlank c = false) : strip cs = cs := by
  have hFront (ds : List Char) (hd : ∀ c ∈ ds, Text.isBlank c = false) : ds.dropWhile Text.isBlank = ds := by
    cases ds with
    | nil => rfl
    | cons d ds => simp [hd d List.mem_cons_self]
  rw [strip, hFront cs h, hFront cs.reverse fun c hc => h c (List.mem_reverse.mp hc), List.reverse_reverse]

theorem isBlank_of_isLiteralChar {c : Char} (h : isLiteralChar c = true) : Text.isBlank c = false := by
  have hMarks : ['-', '+', '.', 'e'].any Text.isBlank = false := by decide
  simp only [isLiteralChar, Bool.or_eq_true, beq_iff_eq] at h
  rcases h with (((hDigit | rfl) | rfl) | rfl) | rfl
  · have hRange : 48 ≤ c.toNat ∧ c.toNat ≤ 57 := by
      simpa [Char.isDigit, UInt32.le_iff_toNat_le] using hDigit
    simp only [Text.isBlank, Bool.or_eq_false_iff, Bool.and_eq_false_iff, decide_eq_false_iff_not, beq_eq_false_iff_ne]
    omega
  all_goals decide

theorem ofText_text (x : Number) : ofText x.text.toList = x.asWritten := by
  cases x with
  | nan => rfl
  | infinite negative => cases negative <;> rfl
  | finite s n held =>
    have hRead := ofLiteral?_text s held
    have hSome : (finite s n held).text.toList ≠ [] := by
      intro hNone
      rw [hNone] at hRead
      cases hRead
    have hStrip : strip (finite s n held).text.toList = (finite s n held).text.toList :=
      strip_of_not_blank fun c hc => isBlank_of_isLiteralChar (isLiteralChar_of_mem_text s held hc)
    unfold ofText
    split
    · rename_i hNone
      rw [hStrip] at hNone
      exact absurd hNone hSome
    · rw [hStrip, readSigned?_of_ofLiteral? hRead]
      rfl

theorem EqUpToSign.of_asWritten_eq {x y : Number} (h : x.asWritten = y.asWritten) : x.EqUpToSign y := by
  have hZero := congrArg isZero h
  rw [isZero_asWritten, isZero_asWritten] at hZero
  cases hx : x.isZero with
  | true => exact .inr ⟨hx, hZero ▸ hx⟩
  | false =>
    rw [asWritten, asWritten, ← hZero, hx] at h
    exact .inl h

end CubeSlice.Number
