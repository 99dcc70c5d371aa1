import Mathlib.Data.Nat.Digits.Defs
import CubeSlice.Number.Literal
import CubeSlice.Number.Natural
import CubeSlice.Proofs.Number.Decimal
import CubeSlice.Proofs.Number.Exact

/-!
# Numerals

A numeral is a text of decimal digits, behind a minus sign or not. The number that its digits are read as
is safe just when the written integer is, however many digits there are, and a safe one is that integer:
nothing is rounded.
-/

namespace CubeSlice

namespace Number

attribute [local irreducible] unitsInOne twoTo tenTo

theorem isNegative_ofRatio (s : Bool) (num den : Nat) : (ofRatio s num den).isNegative = s := by
  unfold ofRatio
  split <;> rfl

theorem isSafeInteger_ofUnits (s : Bool) (n : Nat) :
    (ofUnits s (n * unitsInOne)).isSafeInteger = true ↔ n ≤ maxSafe := by
  rcases Nat.lt_or_ge maxSafe n with hLarge | hSmall
  · -- `2 ^ 53` is on the grid, so that rounding does not fall below it
    refine ⟨fun hSafe => ?_, fun h => absurd h (Nat.not_le.mpr hLarge)⟩
    have hReach : exactLimit * unitsInOne ≤ Format.binary64.round (n * unitsInOne) 1 := by
      refine Format.le_round_of_onGrid (onGrid_natural (Nat.le_refl _)) Nat.one_pos ?_
      rw [Nat.mul_one]
      exact Nat.mul_le_mul_right _ hLarge
    by_cases hFinite : Format.binary64.round (n * unitsInOne) 1 < twoTo Format.binary64.ceiling
    · rw [ofUnits, ofRatio_of_lt s hFinite, isSafeInteger_of_exactLimit_le s _ hReach] at hSafe
      cases hSafe
    · rw [ofUnits, ofRatio, dif_neg hFinite] at hSafe
      cases hSafe
  · rw [ofUnits_of_holds s (holds_natural (le_exactLimit hSmall)), isSafeInteger, toInt?_finite]
    cases s <;> simp [signed]

theorem eq_of_toInt? {x y : Number} {i : Int} (hx : x.toInt? = some i) (hy : y.toInt? = some i)
    (hSign : x.isNegative = y.isNegative) : x = y := by
  obtain ⟨s, u, heldX, rfl, hU⟩ := exists_signed_of_toInt? hx
  obtain ⟨t, v, heldY, rfl, hV⟩ := exists_signed_of_toInt? hy
  obtain rfl : s = t := hSign
  have hUnits : u = v := by
    rw [← hV] at hU
    cases s with
    | false => exact Int.ofNat.inj hU
    | true => exact Int.ofNat.inj (Int.neg_inj.mp hU)
  subst hUnits
  rfl

theorem ofDigits_eq (s : Bool) (digits : List Char) :
    ofDigits s digits = ofUnits s (digitsValue digits * unitsInOne) := ofDecimal_zero s (digitsValue digits)

end Number

theorem digitsValue_eq_ofDigits (digits : List Char) :
    digitsValue digits = Nat.ofDigits 10 (digits.map fun c => c.toNat - '0'.toNat).reverse := by
  rw [Nat.ofDigits_eq_foldr, List.foldr_reverse, List.foldl_map, digitsValue]
  congr 1
  funext n c
  rw [Nat.cast_id, Nat.mul_comm 10, Nat.add_comm]

structure Numeral (text : String) where
  negative : Bool
  digits : List Char
  digits_ne_nil : digits ≠ []
  isDigit : ∀ c ∈ digits, c.isDigit
  spelled : text.toList = if negative then '-' :: digits else digits

namespace Numeral

variable {text : String} {m : Numeral text} {x y : Number}

def magnitude (m : Numeral text) : Nat :=
  Nat.ofDigits 10 (m.digits.map fun c => c.toNat - '0'.toNat).reverse

/-- The number is the integer that the numeral writes, under the sign that it writes: `-0` is the
negative zero. -/
def Writes (m : Numeral text) (x : Number) : Prop :=
  x.toInt? = some (Number.signed m.negative m.magnitude) ∧ x.isNegative = m.negative

instance : Subsingleton (Numeral text) where
  allEq := by
    rintro ⟨s, ds, hds, hDigit, hText⟩ ⟨t, es, hes, hDigit', hText'⟩
    have hMinus : ¬ '-'.isDigit := by decide
    rw [hText] at hText'
    cases s <;> cases t <;> simp at hText' hText
    · subst hText'
      rfl
    · subst hText'
      exact absurd (hDigit _ List.mem_cons_self) hMinus
    · subst hText'
      exact absurd (hDigit' _ List.mem_cons_self) hMinus
    · subst hText'
      rfl

theorem number_eq (m : Numeral text) :
    Number.ofDigits m.negative m.digits = Number.ofUnits m.negative (m.magnitude * unitsInOne) := by
  rw [Number.ofDigits_eq, digitsValue_eq_ofDigits, magnitude]

theorem isSafeInteger_iff (m : Numeral text) :
    (Number.ofDigits m.negative m.digits).isSafeInteger = true ↔ m.magnitude ≤ maxSafe := by
  rw [number_eq, Number.isSafeInteger_ofUnits]

theorem writes_ofDigits (h : m.magnitude ≤ maxSafe) : m.Writes (Number.ofDigits m.negative m.digits) := by
  rw [number_eq]
  exact ⟨Number.toInt?_ofUnits _ (Number.le_exactLimit h), Number.isNegative_ofRatio _ _ _⟩

theorem Writes.unique (hx : m.Writes x) (hy : m.Writes y) : x = y :=
  Number.eq_of_toInt? hx.1 hy.1 (hx.2.trans hy.2.symm)

end Numeral

end CubeSlice
