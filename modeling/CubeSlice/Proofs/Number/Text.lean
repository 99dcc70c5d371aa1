import Mathlib.Data.List.TakeWhile
import CubeSlice.Number.Shortest
import CubeSlice.Proofs.Number.Literal
import CubeSlice.Proofs.Number.Numeral

/-!
# Texts of numbers

The text of a finite number is a literal, and reading it gives the number back, whichever notation is taken and
however many digits are written; only the sign of a zero is not written. Nothing else than digits, signs, points
and the letter of the exponent stands in it.
-/

namespace CubeSlice

theorem toList_toString (n : Nat) : (toString n).toList = Nat.toDigits 10 n := by
  rw [Nat.toString_eq_ofList_toDigits, String.toList_ofList]

theorem Leading.exists_toDigits_eq {n : Nat} (hn : 0 < n) : ∃ zeros, Leading (Number.significantDigits n) ∧
    Nat.toDigits 10 n = Number.significantDigits n ++ List.replicate zeros '0' := by
  have hZeros : ((Nat.toDigits 10 n).reverse.takeWhile (· == '0')) =
      List.replicate ((Nat.toDigits 10 n).reverse.takeWhile (· == '0')).length '0' :=
    List.eq_replicate_of_mem fun c hc => by
      simpa using List.mem_takeWhile_imp hc
  have hSplit : Nat.toDigits 10 n = Number.significantDigits n ++
      List.replicate ((Nat.toDigits 10 n).reverse.takeWhile (· == '0')).length '0' := by
    have hReverse := congrArg List.reverse
      (List.takeWhile_append_dropWhile (p := (· == '0')) (l := (Nat.toDigits 10 n).reverse))
    rw [List.reverse_append, List.reverse_reverse, hZeros, List.reverse_replicate] at hReverse
    exact hReverse.symm
  refine ⟨_, ?_, hSplit⟩
  have hLeading := toDigits hn
  rw [hSplit] at hLeading
  apply hLeading.of_append
  intro hNone
  rw [hNone, List.nil_append] at hLeading
  obtain ⟨c, rest, hHead, hc⟩ := hLeading.head
  exact hc (List.eq_of_mem_replicate (hHead ▸ List.mem_cons_self))

namespace Number

variable {digits : List Char}

theorem toList_mark (e : Int) : ((if e < 0 then "e-" else "e+") ++ toString e.natAbs).toList =
    'e' :: exponentChars e := by
  rw [String.toList_append, toList_toString, exponentChars]
  split <;> rfl

theorem toList_mantissa (c : Char) (rest : List Char) :
    String.toList (match c :: rest with
      | [] => ""
      | [d] => d.toString
      | d :: rest => String.ofList (d :: '.' :: rest)) = if rest = [] then [c] else c :: '.' :: rest := by
  cases rest with
  | nil => exact String.toList_singleton c
  | cons d rest => exact String.toList_ofList

theorem readUnsigned?_layoutDigits (s : Bool) (h : Leading digits) (point : Int) :
    readUnsigned? s (layoutDigits digits point).toList =
      some (ofDecimal s (digitsValue digits) (point - digits.length)) := by
  obtain ⟨c, rest, hHead, -⟩ := h.head
  unfold layoutDigits
  dsimp only
  split
  · rw [String.toList_ofList, readUnsigned?_zeros s h, Int.toNat_of_nonneg (by omega)]
  split
  · have hLength : point.toNat < digits.length := by omega
    have hFront : digits.take point.toNat ≠ [] := by
      rw [ne_eq, List.take_eq_nil_iff]
      simp [hHead]
      omega
    have hBack : digits.drop point.toNat ≠ [] := by simpa using hLength
    have hExponent : -((digits.drop point.toNat).length : Int) = point - digits.length := by
      rw [List.length_drop]
      omega
    have hRead := readUnsigned?_point s (by rwa [List.take_append_drop]) hFront hBack
    rw [List.take_append_drop, hExponent] at hRead
    rw [String.toList_ofList, hRead]
  split
  · have hExponent : -(((-point).toNat + digits.length : Nat) : Int) = point - digits.length := by omega
    rw [String.toList_ofList, readUnsigned?_small s h, hExponent]
  · subst hHead
    have hExponent : point - 1 - rest.length = point - (c :: rest).length := by
      rw [List.length_cons]
      omega
    have hRead := readUnsigned?_exponent s h (point - 1)
    rw [hExponent, ← toList_mantissa] at hRead
    rw [String.append_assoc, String.toList_append, toList_mark]
    exact hRead

theorem Decimal.readUnsigned?_text (d : Decimal) (hd : 0 < d.digits) (s : Bool) :
    readUnsigned? s d.text.toList = some (d.read s) := by
  obtain ⟨zeros, hLeading, hSplit⟩ := Leading.exists_toDigits_eq hd
  have hDigits : d.digits = digitsValue (significantDigits d.digits) * tenTo zeros := by
    conv => lhs; rw [← digitsValue_toDigits d.digits, hSplit]
    rw [digitsValue_append, digitsValue_zeros, List.length_replicate, Nat.add_zero]
  have hExponent : (Nat.toDigits 10 d.digits).length + d.exponent - (significantDigits d.digits).length =
      d.exponent + zeros := by
    rw [hSplit, List.length_append, List.length_replicate]
    omega
  have hValue := ofDecimal_mul_tenTo s (digitsValue (significantDigits d.digits)) zeros (d.exponent + zeros)
  rw [← hDigits, Int.add_sub_cancel] at hValue
  rw [Decimal.text, readUnsigned?_layoutDigits s hLeading, hExponent, Decimal.read, hValue]

section Shortest

attribute [local irreducible] unitsInOne twoTo tenTo

variable {n : Nat}

theorem tenTo_eq (e : Nat) : tenTo e = Nat.pow 5 e * twoTo e := by
  unfold tenTo twoTo
  exact Nat.mul_pow 5 2 e

theorem unitsInOne_eq : unitsInOne = twoTo unitExponent := by
  unfold unitsInOne
  rfl

theorem read_exactDecimal (s : Bool) (held : Format.binary64.Holds n) (count : Nat) :
    (gridPoint (decimalUnits n) count count).read s = finite s n held := by
  have hExponent : (gridPoint (decimalUnits n) count count).exponent = ((0 : Nat) : Int) - unitExponent := by
    rw [gridPoint, Nat.sub_self]
  have hOne : tenTo 0 = 1 := by
    unfold tenTo
    rfl
  have hUnits : decimalUnits n * tenTo 0 * unitsInOne = n * tenTo unitExponent := by
    rw [hOne, Nat.mul_one, decimalUnits, tenTo_eq, unitsInOne_eq, Nat.mul_assoc]
  rw [Decimal.read, hExponent, ofDecimal_eq_ofScientific, ofScientific_sub]
  show ofRatio s (decimalUnits n * tenTo 0 * unitsInOne) (tenTo unitExponent) = _
  rw [hUnits, ofRatio_of_holds s held (tenTo_pos _)]

theorem read_of_gridHit? {x : Number} {m count k : Nat} {d : Decimal} (h : gridHit? x m count k = some d) :
    d.read x.isNegative = x := by
  unfold gridHit? at h
  have hRead := List.find?_some h
  exact eq_of_beq hRead

/-- Whichever decimal is chosen, it reads back as the number that it is chosen for. -/
theorem read_shortest (s : Bool) (held : Format.binary64.Holds n) :
    (shortest (finite s n held) n).read s = finite s n held := by
  unfold shortest
  dsimp only
  cases hHits : (List.range' 1 17).findSome? _ with
  | none => exact read_exactDecimal s held _
  | some d =>
    obtain ⟨k, -, hHit⟩ := List.exists_of_findSome?_eq_some hHits
    exact read_of_gridHit? hHit

theorem shortest_digits_pos (s : Bool) (held : Format.binary64.Holds n) (hn : n ≠ 0) :
    0 < (shortest (finite s n held) n).digits := by
  have hRead := read_shortest s held
  apply Nat.pos_of_ne_zero
  intro hZero
  rw [Decimal.read, hZero, ofDecimal_eq_ofScientific, ofScientific_zero,
    ofUnits_of_holds s (Format.holds_zero _), finite.injEq] at hRead
  exact hn hRead.2.symm

theorem readUnsigned?_magnitudeText (s : Bool) (held : Format.binary64.Holds n) (hn : n ≠ 0) :
    readUnsigned? s (magnitudeText n (finite s n held)).toList = some (finite s n held) := by
  unfold magnitudeText
  split
  · rename_i hWhole
    obtain ⟨m, rfl⟩ := Nat.dvd_of_mod_eq_zero hWhole.1
    have hm : 0 < m := Nat.pos_of_ne_zero fun hZero => hn (by rw [hZero, Nat.mul_zero])
    have hRead := readUnsigned?_zeros s (Leading.toDigits hm) 0
    rw [List.replicate_zero, List.append_nil, digitsValue_toDigits, Int.natCast_zero, ofDecimal_zero,
      Nat.mul_comm m, ofUnits_of_holds s held] at hRead
    rw [Nat.mul_div_cancel_left m unitsInOne_pos, toList_toString, hRead]
  · rw [Decimal.readUnsigned?_text _ (shortest_digits_pos s held hn), read_shortest]

end Shortest

/-- What the text of a number stands for: both zeros are written alike. -/
def asWritten (x : Number) : Number := if x.isZero then zero else x

theorem asWritten_zero (s : Bool) (held : Format.binary64.Holds 0) : (finite s 0 held).asWritten = zero := rfl

theorem asWritten_of_ne_zero (s : Bool) {n : Nat} (held : Format.binary64.Holds n) (hn : n ≠ 0) :
    (finite s n held).asWritten = finite s n held := by
  have hZero : ¬ (finite s n held).isZero = true := by simpa [isZero] using hn
  rw [asWritten, if_neg hZero]

theorem text_zero (s : Bool) (held : Format.binary64.Holds 0) : (finite s 0 held).text.toList = ['0'] := by
  rw [text, if_pos rfl]
  decide

theorem text_of_ne_zero (s : Bool) {n : Nat} (held : Format.binary64.Holds n) (hn : n ≠ 0) :
    (finite s n held).text.toList =
      if s then '-' :: (magnitudeText n (finite s n held)).toList
      else (magnitudeText n (finite s n held)).toList := by
  rw [text, if_neg hn, String.toList_append]
  cases s <;> rfl

def EqUpToSign (x y : Number) : Prop := x = y ∨ x.isZero = true ∧ y.isZero = true

theorem text_of_isZero {x : Number} (h : x.isZero = true) : x.text = "0" := by
  cases x with
  | nan => cases h
  | infinite negative => cases h
  | finite s n held =>
    obtain rfl : n = 0 := eq_of_beq h
    rw [← String.toList_inj, text_zero]
    rfl

theorem EqUpToSign.text_eq {x y : Number} (h : x.EqUpToSign y) : x.text = y.text := by
  rcases h with rfl | ⟨hx, hy⟩
  · rfl
  · rw [text_of_isZero hx, text_of_isZero hy]

theorem equpToSign_asWritten (x : Number) : x.EqUpToSign x.asWritten := by
  unfold asWritten
  split
  · rename_i hZero
    exact .inr ⟨hZero, rfl⟩
  · exact .inl rfl

theorem isZero_asWritten (x : Number) : x.asWritten.isZero = x.isZero := by
  unfold asWritten
  split
  · rename_i hZero
    exact hZero.symm
  · rfl

theorem ofLiteral?_text (s : Bool) {n : Nat} (held : Format.binary64.Holds n) :
    ofLiteral? (finite s n held).text.toList = some (finite s n held).asWritten := by
  rcases Nat.eq_zero_or_pos n with rfl | hn
  · have hWhole : isWholePart ['0'] = true := rfl
    have hRead := readUnsigned?_whole false hWhole
    have hZero : ofDecimal false (digitsValue ['0']) 0 = zero := (if_pos rfl).trans (ofUnits_of_holds _ _)
    rw [text_zero, asWritten_zero, ← hZero]
    exact ofLiteral?_of_readUnsigned? hRead
  · have hNonzero := Nat.ne_of_gt hn
    have hRead := readUnsigned?_magnitudeText s held hNonzero
    rw [asWritten_of_ne_zero s held hNonzero, text_of_ne_zero s held hNonzero]
    cases s with
    | false => exact ofLiteral?_of_readUnsigned? hRead
    | true => exact hRead

def isLiteralChar (c : Char) : Bool := c.isDigit || c == '-' || c == '+' || c == '.' || c == 'e'

theorem isLiteralChar_of_isDigit {c : Char} (h : c.isDigit = true) : isLiteralChar c = true := by
  simp [isLiteralChar, h]

theorem isLiteralChar_of_mem_toString {k : Nat} {c : Char} (h : c ∈ (toString k).toList) :
    isLiteralChar c = true := by
  rw [toList_toString] at h
  exact isLiteralChar_of_isDigit (isDigit_of_mem_toDigits h)

theorem isLiteralChar_of_mem_layoutDigits (hDigits : ∀ c ∈ digits, c.isDigit = true) (point : Int) {c : Char}
    (h : c ∈ (layoutDigits digits point).toList) : isLiteralChar c = true := by
  have hLiteral : ∀ d ∈ digits, isLiteralChar d = true := fun d hd => isLiteralChar_of_isDigit (hDigits d hd)
  have hZeros (k : Nat) : ∀ d ∈ List.replicate k '0', isLiteralChar d = true := fun d hd =>
    isLiteralChar_of_isDigit (isDigit_of_mem_zeros hd)
  unfold layoutDigits at h
  dsimp only at h
  split at h
  · rw [String.toList_ofList, List.mem_append] at h
    exact h.elim (hLiteral c) (hZeros _ c)
  split at h
  · rw [String.toList_ofList, List.mem_append, List.mem_cons] at h
    rcases h with h | rfl | h
    · exact hLiteral c (List.mem_of_mem_take h)
    · decide
    · exact hLiteral c (List.mem_of_mem_drop h)
  split at h
  · rw [String.toList_ofList, List.mem_cons, List.mem_cons, List.mem_append] at h
    rcases h with rfl | rfl | h | h
    · decide
    · decide
    · exact hZeros _ c h
    · exact hLiteral c h
  · rw [String.toList_append, String.toList_append, List.mem_append, List.mem_append] at h
    rcases h with (h | h) | h
    · split at h
      · cases h
      · rw [Char.toString_eq_singleton, String.toList_singleton, List.mem_singleton] at h
        exact hLiteral c (h ▸ List.mem_cons_self)
      · rw [String.toList_ofList, List.mem_cons, List.mem_cons] at h
        rcases h with rfl | rfl | h
        · exact hLiteral c List.mem_cons_self
        · decide
        · exact hLiteral c (List.mem_cons_of_mem _ h)
    · have hMark : ∀ d ∈ "e-".toList ++ "e+".toList, isLiteralChar d = true := List.all_eq_true.mp (by decide)
      split at h
      · exact hMark c (List.mem_append_left _ h)
      · exact hMark c (List.mem_append_right _ h)
    · exact isLiteralChar_of_mem_toString h

theorem isLiteralChar_of_mem_magnitudeText (s : Bool) {n : Nat} (held : Format.binary64.Holds n) (hn : n ≠ 0) {c : Char}
    (h : c ∈ (magnitudeText n (finite s n held)).toList) : isLiteralChar c = true := by
  unfold magnitudeText at h
  split at h
  · exact isLiteralChar_of_mem_toString h
  · obtain ⟨zeros, hLeading, -⟩ := Leading.exists_toDigits_eq (shortest_digits_pos s held hn)
    exact isLiteralChar_of_mem_layoutDigits hLeading.isDigit _ h

theorem isLiteralChar_of_mem_text (s : Bool) {n : Nat} (held : Format.binary64.Holds n) {c : Char}
    (h : c ∈ (finite s n held).text.toList) : isLiteralChar c = true := by
  rcases Nat.eq_zero_or_pos n with rfl | hn
  · rw [text_zero, List.mem_singleton] at h
    rw [h]
    decide
  · have hNonzero := Nat.ne_of_gt hn
    rw [text_of_ne_zero s held hNonzero] at h
    cases s with
    | false => exact isLiteralChar_of_mem_magnitudeText false held hNonzero h
    | true =>
      rcases List.mem_cons.mp h with rfl | h
      · decide
      · exact isLiteralChar_of_mem_magnitudeText true held hNonzero h

end Number

namespace Numeral

attribute [local irreducible] unitsInOne twoTo tenTo

open Number

theorem magnitude_of_toDigits {text : String} {k : Nat} {m : Numeral text} (h : m.digits = Nat.toDigits 10 k) :
    m.magnitude = k := by
  rw [magnitude, ← digitsValue_eq_ofDigits, h, digitsValue_toDigits]

theorem exists_of_zero (s : Bool) (held : Format.binary64.Holds 0) : ∃ m : Numeral (finite s 0 held).text,
    m.magnitude = 0 ∧ ofDigits m.negative m.digits = (finite s 0 held).asWritten := by
  let m : Numeral (finite s 0 held).text :=
    ⟨false, Nat.toDigits 10 0, Nat.toDigits_ne_nil, fun c hc => isDigit_of_mem_toDigits hc, text_zero s held⟩
  have hMagnitude : m.magnitude = 0 := magnitude_of_toDigits rfl
  refine ⟨m, hMagnitude, ?_⟩
  rw [m.number_eq, hMagnitude, Nat.zero_mul, ofUnits_of_holds _ held]
  rfl

theorem exists_of_whole (s : Bool) {n k : Nat} (held : Format.binary64.Holds n) (hWhole : n = k * unitsInOne)
    (hk : k ≤ maxSafe) (hn : n ≠ 0) : ∃ m : Numeral (finite s n held).text,
    m.magnitude = k ∧ ofDigits m.negative m.digits = (finite s n held).asWritten := by
  have hDigits : (magnitudeText n (finite s n held)).toList = Nat.toDigits 10 k := by
    have hUnits : n / unitsInOne = k := by rw [hWhole, Nat.mul_div_cancel _ unitsInOne_pos]
    have hExact : n % unitsInOne = 0 := by rw [hWhole, Nat.mul_mod_left]
    rw [magnitudeText, hUnits, if_pos ⟨hExact, hk⟩, toList_toString]
  have hText := text_of_ne_zero s held hn
  rw [hDigits] at hText
  let m : Numeral (finite s n held).text :=
    ⟨s, Nat.toDigits 10 k, Nat.toDigits_ne_nil, fun c hc => isDigit_of_mem_toDigits hc, hText⟩
  have hMagnitude : m.magnitude = k := magnitude_of_toDigits rfl
  refine ⟨m, hMagnitude, ?_⟩
  rw [m.number_eq, hMagnitude, ← hWhole, ofUnits_of_holds _ held, asWritten_of_ne_zero s held hn]

theorem exists_of_text {x : Number} (h : x.isSafeInteger = true) :
    ∃ m : Numeral x.text, m.magnitude ≤ maxSafe ∧ ofDigits m.negative m.digits = x.asWritten := by
  cases hInt : x.toInt? with
  | none => simp [isSafeInteger, hInt] at h
  | some i =>
    have hSafe : i.natAbs ≤ maxSafe := by simpa [isSafeInteger, hInt] using h
    obtain ⟨s, n, held, rfl, hUnits⟩ := exists_signed_of_toInt? hInt
    have hWhole : n = i.natAbs * unitsInOne := by
      have hSize := congrArg Int.natAbs hUnits
      rw [Int.natAbs_mul, Int.natAbs_natCast] at hSize
      cases s <;> simpa [signed] using hSize
    by_cases hn : n = 0
    · subst hn
      obtain ⟨m, hMagnitude, hDigits⟩ := exists_of_zero s held
      exact ⟨m, hMagnitude.trans_le (Nat.zero_le _), hDigits⟩
    · obtain ⟨m, hMagnitude, hDigits⟩ := exists_of_whole s held hWhole hSafe hn
      exact ⟨m, hMagnitude.trans_le hSafe, hDigits⟩

end Numeral

end CubeSlice
