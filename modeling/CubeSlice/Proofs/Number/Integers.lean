import CubeSlice.Proofs.Number.Exact
import CubeSlice.Proofs.Payload

/-!
# Texts of integers

Integers of at most `2 ^ 53` in magnitude are written in plain decimal. Short of `2 ^ 53` they are safe and their text
is made of their digits; `2 ^ 53` is written as its shortest decimal, which has all sixteen of its digits.
-/

namespace CubeSlice.Number

theorem shortest_exactLimit (s : Bool) : shortest (ofUnits s (exactLimit * unitsInOne)) (exactLimit * unitsInOne) =
    ⟨exactLimit, 0⟩ := by
  have hCount : digitCount (decimalUnits (exactLimit * unitsInOne)) = 1090 := by
    have hStart : (decimalUnits (exactLimit * unitsInOne)).log2 * 1233 / 4096 = 1089 := by decide +kernel
    have hLow : tenTo 1089 ≤ decimalUnits (exactLimit * unitsInOne) := by decide +kernel
    have hHigh : ¬ tenTo 1090 ≤ decimalUnits (exactLimit * unitsInOne) := by decide +kernel
    rw [digitCount, hStart, digitCountFrom, if_pos hLow, digitCountFrom, if_neg hHigh]
  have hHit : (List.range' 1 17).findSome? (gridHit? (ofUnits s (exactLimit * unitsInOne))
      (decimalUnits (exactLimit * unitsInOne)) 1090) = some ⟨exactLimit, 0⟩ := by
    cases s <;> decide +kernel
  unfold shortest
  dsimp only
  rw [hCount, hHit, Option.getD_some]

attribute [local irreducible] unitsInOne twoTo tenTo

theorem magnitudeText_natural (s : Bool) {m : Nat} (h : m ≤ exactLimit) :
    magnitudeText (m * unitsInOne) (ofUnits s (m * unitsInOne)) = toString m := by
  have hQuotient : m * unitsInOne / unitsInOne = m := Nat.mul_div_cancel m unitsInOne_pos
  have hRest : m * unitsInOne % unitsInOne = 0 := Nat.mul_mod_left _ _
  rcases Nat.lt_or_eq_of_le h with hSafe | rfl
  · rw [magnitudeText, hQuotient, if_pos ⟨hRest, Nat.le_of_lt_succ hSafe⟩]
  · have hText : Decimal.text ⟨exactLimit, 0⟩ = toString exactLimit := by decide +kernel
    rw [magnitudeText, hQuotient, if_neg fun hSmall => absurd hSmall.2 (Nat.not_succ_le_self maxSafe),
      shortest_exactLimit, hText]

theorem text_ofInt {z : Int} (h : z.natAbs ≤ exactLimit) : (ofInt z).text = toString z := by
  have hFinite : ofInt z = finite (z < 0) (z.natAbs * unitsInOne) (holds_natural h) :=
    ofUnits_of_holds _ (holds_natural h)
  have hMagnitude := magnitudeText_natural (z < 0) h
  rw [← ofInt, hFinite] at hMagnitude
  have hUnits : z.natAbs * unitsInOne = 0 ↔ z = 0 := by
    rw [Nat.mul_eq_zero, or_iff_left unitsInOne_pos.ne', Int.natAbs_eq_zero]
  rw [hFinite, text, hMagnitude, if_congr hUnits rfl rfl]
  cases z with
  | ofNat m =>
    have hSign : decide (Int.ofNat m < 0) = false := decide_eq_false (Int.not_lt.mpr (Int.natCast_nonneg m))
    split
    · rename_i hZero
      rw [hZero]
      rfl
    · rw [hSign, if_neg Bool.false_ne_true, String.empty_append]
      rfl
  | negSucc m =>
    rw [if_neg (Int.negSucc_ne_zero m), if_pos (decide_eq_true (Int.negSucc_lt_zero m))]
    rfl

end CubeSlice.Number
