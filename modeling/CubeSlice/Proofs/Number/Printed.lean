import CubeSlice.Proofs.Number.Integers
import CubeSlice.Proofs.Number.Reading
import CubeSlice.Proofs.Number.SixDigits
import CubeSlice.Proofs.Slice.Json
import CubeSlice.Proofs.Slice.Summary

/-!
# Printed numbers

A number is printed as the text of its six digits. What is read back from there is finite if the number is, keeps the
order of numbers, and is printed the same again; integers of up to six digits are printed as they are.
-/

namespace CubeSlice.Number

attribute [local irreducible] unitsInOne twoTo tenTo

def decimalsInUnit : Nat := Nat.pow 5 unitExponent

/-- The number nearest to a decimal of six digits that is nearest to the first number. -/
inductive CutsTo : Number → Number → Prop
  | finite (negative : Bool) {n r n' : Nat} {held : Format.binary64.Holds n} {held' : Format.binary64.Holds n'}
    (six : RoundsToSix (n * decimalsInUnit) r) (nearest : Format.binary64.IsNearest r decimalsInUnit n') :
    CutsTo (finite negative n held) (finite negative n' held')

def printed (x : Number) : String := x.sixDigits.text

/-- What the printed text reads as. -/
def readAgain (x : Number) : Number := ofText x.printed.toList

def sixUnits (n : Nat) : Nat := Format.binary64.round (cutSix (n * decimalsInUnit)) decimalsInUnit

section Units

attribute [local irreducible] decimalsInUnit

variable {m n : Nat}

theorem odd_decimalsInUnit : Odd decimalsInUnit := by
  have hPower (k : Nat) : Odd (Nat.pow 5 k) := Odd.pow (by decide)
  unfold decimalsInUnit
  exact hPower _

theorem decimalsInUnit_pos : 0 < decimalsInUnit := odd_decimalsInUnit.pos

theorem decimalUnits_eq (n : Nat) : decimalUnits n = n * decimalsInUnit := by
  unfold decimalUnits decimalsInUnit
  rfl

theorem tenTo_unitExponent : tenTo unitExponent = decimalsInUnit * unitsInOne := by
  rw [tenTo_eq, unitsInOne_eq]
  unfold decimalsInUnit
  rfl

theorem sixUnits_zero : sixUnits 0 = 0 := by
  have hSelf := Format.round_of_onGrid (Format.onGrid_zero Format.binary64) decimalsInUnit_pos
  rw [Nat.zero_mul] at hSelf
  rw [sixUnits, Nat.zero_mul, isSixDigit_zero.cutSix_eq, hSelf]

theorem sixUnits_le_sixUnits (h : m ≤ n) : sixUnits m ≤ sixUnits n :=
  Format.round_le_round decimalsInUnit_pos (cutSix_le_cutSix (Nat.mul_le_mul_right _ h))

theorem sixUnits_sixUnits (n : Nat) : sixUnits (sixUnits n) = sixUnits n :=
  Format.round_cutSix (isSixDigit_cutSix _) odd_decimalsInUnit rfl

theorem sixUnits_of_isSixDigit (held : Format.binary64.Holds n) (h : IsSixDigit (n * decimalsInUnit)) :
    sixUnits n = n := by
  rw [sixUnits, h.cutSix_eq, Format.round_of_onGrid held.2 decimalsInUnit_pos]

end Units

theorem sixUnits_ceiling : sixUnits (twoTo Format.binary64.ceiling) < twoTo Format.binary64.ceiling := by
  have hLow : tenTo 1382 ≤ twoTo Format.binary64.ceiling * decimalsInUnit := by decide +kernel
  have hHigh : twoTo Format.binary64.ceiling * decimalsInUnit < tenTo 1383 := by decide +kernel
  have hCut : cutSix (twoTo Format.binary64.ceiling * decimalsInUnit) = 179769 * tenTo 1377 := by
    rw [cutSix, sixthPlace, digitCount_eq hLow hHigh]
    decide +kernel
  rw [sixUnits, hCut]
  decide +kernel

attribute [local irreducible] decimalsInUnit

variable {x y : Number} {s t : Bool} {m n : Nat}

theorem sixUnits_lt (held : Format.binary64.Holds n) : sixUnits n < twoTo Format.binary64.ceiling :=
  Nat.lt_of_le_of_lt (sixUnits_le_sixUnits held.1.le) sixUnits_ceiling

theorem holds_sixUnits (held : Format.binary64.Holds n) : Format.binary64.Holds (sixUnits n) :=
  ⟨sixUnits_lt held, Format.onGrid_round _ _ _⟩

theorem sixDigits_finite (s : Bool) (held : Format.binary64.Holds n) :
    (finite s n held).sixDigits = finite s (sixUnits n) (holds_sixUnits held) := by
  have hRatio : ofRatio s (cutSix (n * decimalsInUnit)) decimalsInUnit =
      finite s (sixUnits n) (holds_sixUnits held) := dif_pos (sixUnits_lt held)
  rw [← hRatio]
  rcases Nat.eq_zero_or_pos n with rfl | hPos
  · rw [sixDigits_of_isZero rfl, Nat.zero_mul, isSixDigit_zero.cutSix_eq, ofRatio_zero s decimalsInUnit_pos,
      ofUnits_of_holds s held]
  · rw [sixDigits, if_neg hPos.ne', leadingSix, Decimal.read, ofDecimal_eq_ofScientific]
    dsimp only [gridPoint]
    rw [ofScientific_sub, tenTo_unitExponent, decimalUnits_eq, ofRatio_mul_mul s _ _ unitsInOne_pos]
    rfl

theorem cutsTo_sixDigits (h : x.isFinite = true) : x.CutsTo x.sixDigits := by
  cases x with
  | nan => cases h
  | infinite negative => cases h
  | finite s n held =>
    rw [sixDigits_finite]
    exact .finite s (roundsToSix_cutSix _) (Format.isNearest_round _ _ decimalsInUnit_pos)

theorem sixDigits_sixDigits (x : Number) : x.sixDigits.sixDigits = x.sixDigits := by
  cases x with
  | nan => rfl
  | infinite negative => rfl
  | finite s n held =>
    rw [sixDigits_finite, sixDigits_finite]
    simp only [sixUnits_sixUnits]

theorem signed_le_signed (h : signed s m ≤ signed t n) : signed s (sixUnits m) ≤ signed t (sixUnits n) := by
  cases s <;> cases t <;> simp only [signed, if_true, Bool.false_eq_true, if_false] at h ⊢
  · exact_mod_cast sixUnits_le_sixUnits (by omega)
  · obtain rfl : m = 0 := by omega
    obtain rfl : n = 0 := by omega
    rw [sixUnits_zero]
    decide
  · omega
  · have hUnits : sixUnits n ≤ sixUnits m := sixUnits_le_sixUnits (by omega)
    omega

theorem sixDigits_le_sixDigits (hx : x.isFinite = true) (hy : y.isFinite = true) (h : x.le y = true) :
    x.sixDigits.le y.sixDigits = true := by
  cases x with
  | nan => cases hx
  | infinite negative => cases hx
  | finite s m held =>
    cases y with
    | nan => cases hy
    | infinite negative => cases hy
    | finite t n held' =>
      rw [sixDigits_finite, sixDigits_finite]
      rw [le, decide_eq_true_eq] at h ⊢
      exact signed_le_signed h

theorem sixDigits_of_toInt? {z : Int} (h : x.toInt? = some z) (hz : z.natAbs < 1000000) : x.sixDigits = x := by
  obtain ⟨s, n, held, rfl, hSigned⟩ := exists_signed_of_toInt? h
  obtain ⟨rfl, -⟩ := eq_of_signed hSigned
  have hSix : IsSixDigit (z.natAbs * unitsInOne * decimalsInUnit) := by
    refine ⟨z.natAbs, unitExponent, hz, ?_⟩
    rw [tenTo_unitExponent, Nat.mul_assoc, Nat.mul_comm unitsInOne]
  rw [sixDigits_finite]
  simp only [sixUnits_of_isSixDigit held hSix]

theorem equpToSign_ofInt {z : Int} (h : x.toInt? = some z) (hz : z.natAbs ≤ exactLimit) : x.EqUpToSign (ofInt z) := by
  obtain ⟨s, n, held, rfl, hSigned⟩ := exists_signed_of_toInt? h
  obtain ⟨t, n', held', hInt, hSigned'⟩ := exists_signed_of_toInt? (toInt?_ofInt hz)
  rw [hInt]
  exact eqUpToSign_of_signed_eq (hSigned.trans hSigned'.symm)

theorem readAgain_eq (x : Number) : x.readAgain = x.sixDigits.asWritten := ofText_text x.sixDigits

theorem printed_readAgain (x : Number) : x.readAgain.printed = x.printed := by
  have hSame : x.sixDigits.EqUpToSign x.readAgain := readAgain_eq x ▸ equpToSign_asWritten _
  rw [printed, ← hSame.text_sixDigits_eq, sixDigits_sixDigits, printed]

theorem isFinite_asWritten (x : Number) : x.asWritten.isFinite = x.isFinite := by
  cases x with
  | nan => rfl
  | infinite negative => rfl
  | finite s n held =>
    unfold asWritten
    split <;> rfl

theorem isFinite_readAgain (h : x.isFinite = true) : x.readAgain.isFinite = true := by
  rw [readAgain_eq, isFinite_asWritten]
  generalize hSix : x.sixDigits = y
  have hCuts := cutsTo_sixDigits h
  rw [hSix] at hCuts
  cases hCuts with
  | finite negative six nearest => rfl

theorem place_asWritten (x : Number) : x.asWritten.place = x.place := by
  unfold asWritten
  split
  · rename_i hZero
    cases x with
    | nan => cases hZero
    | infinite negative => cases hZero
    | finite s n held =>
      obtain rfl : n = 0 := eq_of_beq hZero
      cases s <;> rfl
  · rfl

theorem readAgain_le_readAgain (hx : x.isFinite = true) (hy : y.isFinite = true) (h : x.le y = true) :
    x.readAgain.le y.readAgain = true := by
  obtain ⟨p, q, hp, hq, hpq⟩ := exists_places_of_le (sixDigits_le_sixDigits hx hy h)
  rw [readAgain_eq, readAgain_eq]
  exact (le_iff_place ((place_asWritten _).trans hp) ((place_asWritten _).trans hq)).mpr hpq

theorem printed_of_toInt? {z : Int} (h : x.toInt? = some z) (hz : z.natAbs < 1000000) : x.printed = toString z := by
  have hLimit : z.natAbs ≤ exactLimit := by
    have hMany : 1000000 ≤ exactLimit := by decide
    omega
  rw [printed, sixDigits_of_toInt? h hz, (equpToSign_ofInt h hLimit).text_eq, text_ofInt hLimit]

end CubeSlice.Number
