import CubeSlice.Proofs.Number.Nearest
import CubeSlice.Proofs.Number.Numeral

/-!
# Natural numbers of any size

A natural number is rounded to the nearest number, or to infinity when that lies beyond the format. However large it
is, it is rounded to a positive number if it is positive.
-/

namespace CubeSlice

namespace Number

attribute [local irreducible] unitsInOne twoTo tenTo

/-- The number is nearest to a natural number; it is infinite if the nearest value with enough room for any exponent
lies beyond the format. -/
inductive RoundsTo (n : Nat) : Number → Prop
  | finite {r : Nat} {held : Format.binary64.Holds r} (nearest : Format.binary64.IsNearest (n * unitsInOne) 1 r) :
      RoundsTo n (finite false r held)
  | overflow {r : Nat} (nearest : Format.binary64.IsNearest (n * unitsInOne) 1 r)
      (beyond : twoTo Format.binary64.ceiling ≤ r) : RoundsTo n (infinite false)

variable {n : Nat} {x y : Number}

theorem roundsTo_ofNat (n : Nat) : RoundsTo n (ofNat n) := by
  have hNearest := Format.binary64.isNearest_round (n * unitsInOne) Nat.one_pos
  rw [ofNat, ofUnits]
  by_cases hBelow : Format.binary64.round (n * unitsInOne) 1 < twoTo Format.binary64.ceiling
  · rw [ofRatio_of_lt false hBelow]
    exact .finite hNearest
  · rw [ofRatio, dif_neg hBelow]
    exact .overflow hNearest (Nat.le_of_not_lt hBelow)

theorem RoundsTo.unique (h : RoundsTo n x) (h' : RoundsTo n y) : x = y := by
  cases h with
  | @finite r held nearest =>
    cases h' with
    | finite nearest' =>
      obtain rfl := nearest.unique nearest'
      rfl
    | overflow nearest' beyond =>
      obtain rfl := nearest.unique nearest'
      exact absurd held.1 (Nat.not_lt.mpr beyond)
  | overflow nearest beyond =>
    cases h' with
    | @finite r held nearest' =>
      obtain rfl := nearest.unique nearest'
      exact absurd held.1 (Nat.not_lt.mpr beyond)
    | overflow => rfl

theorem roundsTo_iff : RoundsTo n x ↔ x = ofNat n :=
  ⟨fun h => h.unique (roundsTo_ofNat n), fun h => h ▸ roundsTo_ofNat n⟩

theorem zero_lt_ofNat_iff : zero.lt (ofNat n) = true ↔ 0 < n := by
  rcases Nat.eq_zero_or_pos n with rfl | hPos
  · have hZero : ofNat 0 = zero := by decide +kernel
    rw [hZero]
    decide
  · -- one is on the grid, so that rounding does not fall below it
    have hReach : 1 * unitsInOne ≤ Format.binary64.round (n * unitsInOne) 1 := by
      refine Format.le_round_of_onGrid (onGrid_natural (by decide)) Nat.one_pos ?_
      rw [Nat.mul_one]
      exact Nat.mul_le_mul_right _ hPos
    have hUnits := unitsInOne_pos
    refine iff_of_true ?_ hPos
    rw [ofNat, ofUnits]
    by_cases hBelow : Format.binary64.round (n * unitsInOne) 1 < twoTo Format.binary64.ceiling
    · rw [ofRatio_of_lt false hBelow, zero, lt]
      simp only [signed, Bool.false_eq_true, if_false, decide_eq_true_eq]
      omega
    · rw [ofRatio, dif_neg hBelow]
      rfl

theorem isSafeInteger_ofNat_iff : (ofNat n).isSafeInteger = true ↔ n ≤ maxSafe := isSafeInteger_ofUnits false n

end Number

def decimal (text : String) : Nat :=
  Nat.ofDigits 10 (text.toList.map fun c => c.toNat - '0'.toNat).reverse

structure IsPositiveDecimal (text : String) : Prop where
  isDigit : ∀ c ∈ text.toList, c.isDigit = true
  nonzero : ∃ c ∈ text.toList, c ≠ '0'

theorem ofDigits_eq_ofNat_decimal (text : String) :
    Number.ofDigits false text.toList = Number.ofNat (decimal text) := by
  rw [Number.ofDigits_eq, digitsValue_eq_ofDigits]
  rfl

theorem eq_zero_digit {c : Char} (hDigit : c.isDigit = true) (hZero : c.toNat - '0'.toNat = 0) : c = '0' := by
  have hRange : 48 ≤ c.toNat := by
    have hLower : '0'.val ≤ c.val := (by simpa [Char.isDigit] using hDigit : _ ∧ _).1
    exact hLower
  exact Char.toNat_inj.mp (Nat.le_antisymm (Nat.sub_eq_zero_iff_le.mp hZero) hRange)

theorem decimal_pos_iff {text : String} (h : ∀ c ∈ text.toList, c.isDigit = true) :
    0 < decimal text ↔ ∃ c ∈ text.toList, c ≠ '0' := by
  rw [Nat.pos_iff_ne_zero, not_iff_comm]
  push Not
  constructor
  · intro hZeros
    rw [decimal, List.eq_replicate_of_mem hZeros]
    simp
  · intro hZero c hMem
    have hDigit := Nat.digits_zero_of_eq_zero (by decide) hZero (c.toNat - '0'.toNat)
      (List.mem_reverse.mpr (List.mem_map_of_mem hMem))
    exact eq_zero_digit (h c hMem) hDigit

end CubeSlice
