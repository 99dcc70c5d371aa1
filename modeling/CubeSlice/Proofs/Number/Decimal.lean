import Mathlib.Tactic.Ring
import CubeSlice.Number.Decimal
import CubeSlice.Number.Natural

/-!
# Decimals and their rounding

The number nearest to a quotient depends on the value of the quotient only, so that a decimal may be read
from any of its spellings: moving zeros between digits and exponent changes nothing. The bounds beyond
which `ofDecimal` does not look at the digits are far enough out for that.
-/

namespace CubeSlice

theorem divNearest_mul_mul (num den : Nat) {k : Nat} (hk : 0 < k) :
    divNearest (num * k) (den * k) = divNearest num den := by
  have hQuotient : num * k / (den * k) = num / den := Nat.mul_div_mul_right num den hk
  have hRest : num * k % (den * k) = num % den * k := Nat.mul_mod_mul_right k num den
  have hBelow : 2 * (num % den * k) < den * k ↔ 2 * (num % den) < den := by
    rw [← Nat.mul_assoc, Nat.mul_lt_mul_right hk]
  have hHalf : 2 * (num % den * k) = den * k ↔ 2 * (num % den) = den := by
    rw [← Nat.mul_assoc, Nat.mul_left_inj (Nat.ne_of_gt hk)]
  simp only [divNearest, hQuotient, hRest, hBelow, hHalf]

theorem divNearest_eq_zero {num den : Nat} (h : 2 * num < den) : divNearest num den = 0 := by
  have hSmall : num < den := by omega
  simp only [divNearest, Nat.div_eq_of_lt hSmall, Nat.mod_eq_of_lt hSmall, if_pos (Or.inl h)]

namespace Format

theorem round_mul_mul (f : Format) (num den : Nat) {k : Nat} (hk : 0 < k) :
    f.round (num * k) (den * k) = f.round num den := by
  unfold round
  dsimp only
  rw [Nat.mul_div_mul_right num den hk, Nat.mul_right_comm den k, divNearest_mul_mul _ _ hk]

end Format

namespace Number

attribute [local irreducible] unitsInOne twoTo tenTo

theorem ofRatio_mul_mul (s : Bool) (num den : Nat) {k : Nat} (hk : 0 < k) :
    ofRatio s (num * k) (den * k) = ofRatio s num den := by
  simp only [ofRatio, Format.round_mul_mul _ num den hk]

theorem ofRatio_zero (s : Bool) {den : Nat} (hDen : 0 < den) : ofRatio s 0 den = ofUnits s 0 := by
  have hZero := ofRatio_of_holds s (Format.holds_zero Format.binary64) hDen
  rw [Nat.zero_mul] at hZero
  rw [hZero, ofUnits_of_holds s (Format.holds_zero _)]

theorem ofRatio_of_large (s : Bool) {num : Nat} (h : twoTo Format.binary64.ceiling ≤ num) :
    ofRatio s num 1 = infinite s := by
  have hGrid : Format.binary64.OnGrid (twoTo Format.binary64.ceiling) :=
    ⟨1, Format.binary64.ceiling, one_lt_twoTo (by decide), Nat.zero_le _, (Nat.one_mul _).symm⟩
  have hReach : twoTo Format.binary64.ceiling ≤ Format.binary64.round num 1 :=
    Format.le_round_of_onGrid hGrid Nat.one_pos (by rwa [Nat.mul_one])
  rw [ofRatio, dif_neg (Nat.not_lt.mpr hReach)]

theorem ofRatio_of_small (s : Bool) {num den : Nat} (h : 2 * num < den) : ofRatio s num den = ofUnits s 0 := by
  have hDen : 0 < den := by omega
  have hStep : twoTo (Format.binary64.spacing 0) = 1 := by decide +kernel
  have hRound {n : Nat} (hn : 2 * n < den) : Format.binary64.round n den = 0 := by
    unfold Format.round
    dsimp only
    rw [Nat.div_eq_of_lt (by omega : n < den), hStep, Nat.mul_one, Nat.mul_one, divNearest_eq_zero hn]
  rw [← ofRatio_zero s hDen]
  simp only [ofRatio, hRound h, hRound (by omega : 2 * 0 < den)]

theorem tenTo_add (a b : Nat) : tenTo (a + b) = tenTo a * tenTo b := by
  unfold tenTo
  exact Nat.pow_add 10 a b

theorem twoTo_le_tenTo (e : Nat) : twoTo (3 * e) ≤ tenTo e := by
  have hEight : twoTo (3 * e) = 8 ^ e := by
    unfold twoTo
    exact Nat.pow_mul 2 3 e
  rw [hEight]
  unfold tenTo
  exact Nat.pow_le_pow_left (by decide) e

theorem ofScientific_sub (s : Bool) (digits a b : Nat) :
    ofScientific s digits ((a : Int) - b) = ofRatio s (digits * tenTo a * unitsInOne) (tenTo b) := by
  rcases Nat.lt_or_ge a b with h | h
  · obtain ⟨c, rfl⟩ := Nat.exists_eq_add_of_lt h
    have hExponent : (a : Int) - (a + c + 1 : Nat) = Int.negSucc c := by omega
    have hDigits : digits * tenTo a * unitsInOne = digits * unitsInOne * tenTo a := Nat.mul_right_comm ..
    rw [hExponent, hDigits, Nat.add_assoc, tenTo_add, Nat.mul_comm (tenTo a), ofRatio_mul_mul s _ _ (tenTo_pos a)]
    rfl
  · obtain ⟨c, rfl⟩ := Nat.exists_eq_add_of_le h
    have hExponent : ((b + c : Nat) : Int) - b = Int.ofNat c := by simp
    have hDigits : digits * tenTo (b + c) * unitsInOne = digits * tenTo c * unitsInOne * tenTo b := by
      rw [tenTo_add]
      ring
    have hScale := ofRatio_mul_mul s (digits * tenTo c * unitsInOne) 1 (tenTo_pos b)
    rw [Nat.one_mul] at hScale
    rw [hExponent, hDigits, hScale]
    rfl

theorem exists_sub (e : Int) : ∃ a b : Nat, e = (a : Int) - b :=
  ⟨e.toNat, (-e).toNat, by omega⟩

theorem ofScientific_zero (s : Bool) (e : Int) : ofScientific s 0 e = ofUnits s 0 := by
  obtain ⟨a, b, rfl⟩ := exists_sub e
  rw [ofScientific_sub, Nat.zero_mul, Nat.zero_mul, ofRatio_zero s (tenTo_pos b)]

theorem ofScientific_of_large (s : Bool) {digits : Nat} {e : Int} (hDigits : digits ≠ 0) (h : 400 < e) :
    ofScientific s digits e = infinite s := by
  obtain ⟨k, rfl⟩ : ∃ k : Nat, e = Int.ofNat k := ⟨e.toNat, by simp; omega⟩
  have hExponent : 1024 ≤ 3 * k := by
    have hPlain : (400 : Int) < k := h
    omega
  have hPower : twoTo Format.binary64.ceiling ≤ tenTo k * unitsInOne := by
    calc
      twoTo Format.binary64.ceiling = twoTo 1024 * unitsInOne := by decide +kernel
      _ ≤ twoTo (3 * k) * unitsInOne := Nat.mul_le_mul_right _ (twoTo_le_twoTo hExponent)
      _ ≤ tenTo k * unitsInOne := Nat.mul_le_mul_right _ (twoTo_le_tenTo k)
  have hReach : twoTo Format.binary64.ceiling ≤ digits * tenTo k * unitsInOne := by
    rw [Nat.mul_assoc]
    exact Nat.le_trans hPower (Nat.le_mul_of_pos_left _ (Nat.pos_of_ne_zero hDigits))
  exact ofRatio_of_large s hReach

theorem ofScientific_of_small (s : Bool) {digits : Nat} {e : Int}
    (h : e + (digits.log2 + 1 : Nat) < -400) : ofScientific s digits e = ofUnits s 0 := by
  obtain ⟨m, rfl⟩ : ∃ m : Nat, e = Int.negSucc m := ⟨(-e - 1).toNat, by omega⟩
  have hExponent : digits.log2 + 1 + (unitExponent + 1) ≤ 3 * (m + 1) := by
    have hUnit : unitExponent = 1074 := rfl
    omega
  apply ofRatio_of_small
  calc
    2 * (digits * unitsInOne) = digits * (2 * unitsInOne) := by ring
    _ = digits * twoTo (unitExponent + 1) := by rw [two_mul_unitsInOne]
    _ < twoTo (digits.log2 + 1) * twoTo (unitExponent + 1) :=
      Nat.mul_lt_mul_of_pos_right (lt_twoTo_log2_succ digits) (twoTo_pos _)
    _ = twoTo (digits.log2 + 1 + (unitExponent + 1)) := (twoTo_add _ _).symm
    _ ≤ twoTo (3 * (m + 1)) := twoTo_le_twoTo hExponent
    _ ≤ tenTo (m + 1) := twoTo_le_tenTo _

/-- The bounds on exponents spare work and change no result. -/
theorem ofDecimal_eq_ofScientific (s : Bool) (digits : Nat) (e : Int) :
    ofDecimal s digits e = ofScientific s digits e := by
  unfold ofDecimal
  split_ifs with hZero hLarge hSmall
  · rw [hZero, ofScientific_zero]
  · rw [ofScientific_of_large s hZero hLarge]
  · rw [ofScientific_of_small s hSmall]
  · rfl

theorem ofDecimal_mul_tenTo (s : Bool) (digits k : Nat) (e : Int) :
    ofDecimal s (digits * tenTo k) (e - k) = ofDecimal s digits e := by
  obtain ⟨a, b, rfl⟩ := exists_sub e
  have hExponent : (a : Int) - b - k = a - (b + k : Nat) := by omega
  have hDigits : digits * tenTo k * tenTo a * unitsInOne = digits * tenTo a * unitsInOne * tenTo k := by ring
  rw [ofDecimal_eq_ofScientific, ofDecimal_eq_ofScientific, hExponent, ofScientific_sub, ofScientific_sub,
    hDigits, tenTo_add, ofRatio_mul_mul s _ _ (tenTo_pos k)]

theorem ofDecimal_zero (s : Bool) (digits : Nat) : ofDecimal s digits 0 = ofUnits s (digits * unitsInOne) := by
  have hOne : tenTo 0 = 1 := by
    unfold tenTo
    rfl
  have hQuotient := ofScientific_sub s digits 0 0
  rwa [Int.sub_self, ← ofDecimal_eq_ofScientific, hOne, Nat.mul_one] at hQuotient

end Number

end CubeSlice
