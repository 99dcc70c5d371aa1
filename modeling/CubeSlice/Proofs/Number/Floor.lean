import Mathlib.Data.Rat.Floor
import CubeSlice.Proofs.Number.Exact

/-!
# Floors of quotients

A quotient of safe integers that is none itself is rounded to nothing that is one: it stays strictly between its two
neighbours among the integers. So the floor of the rounded quotient is that of the exact one, below zero too.
-/

namespace CubeSlice

theorem lt_divNearest {k num den : Nat} (hDen : 0 < den) (h : 2 * (k * den) + den < 2 * num) :
    k < divNearest num den := by
  have hSplit := Nat.div_add_mod' num den
  have hReach : k ≤ num / den := (Nat.le_div_iff_mul_le hDen).mpr (by omega)
  rcases Nat.lt_or_eq_of_le hReach with hLt | rfl
  · exact Nat.lt_of_lt_of_le hLt (div_le_divNearest num den)
  · -- the rest is more than half of the divisor
    have hFar : ¬ (2 * (num % den) < den ∨ 2 * (num % den) = den ∧ num / den % 2 = 0) := by omega
    rw [divNearest, if_neg hFar]
    exact Nat.lt_succ_self _

theorem Format.lt_round {f : Format} {num den g : Nat} (hDen : 0 < den) (hDvd : twoTo (f.spacing (num / den)) ∣ g)
    (h : 2 * (g * den) + den * twoTo (f.spacing (num / den)) < 2 * num) : g < f.round num den := by
  obtain ⟨k, rfl⟩ := hDvd
  have hStep := twoTo_pos (f.spacing (num / den))
  have hScale : twoTo (f.spacing (num / den)) * k * den = k * (den * twoTo (f.spacing (num / den))) := by ring
  rw [hScale] at h
  have hNearest := lt_divNearest (Nat.mul_pos hDen hStep) h
  rw [round, Nat.mul_comm _ k]
  exact Nat.mul_lt_mul_of_pos_right hNearest hStep

namespace Number

attribute [local irreducible] unitsInOne twoTo

variable {x y : Number} {a b : Nat}

/-- A quotient of safe integers that is none is not rounded down to its whole part. -/
theorem lt_round_quotient (ha : a ≤ maxSafe) (hb : b ≤ maxSafe) (hPos : 0 < b) (hRest : a % b ≠ 0) :
    a / b * unitsInOne < Format.binary64.round (a * unitsInOne * unitsInOne) (b * unitsInOne) := by
  have hUnits := unitsInOne_pos
  have hQuotient : a * unitsInOne * unitsInOne / (b * unitsInOne) = a * unitsInOne / b :=
    Nat.mul_div_mul_right _ _ hUnits
  apply Format.lt_round (Nat.mul_pos hPos hUnits)
  · rw [hQuotient]
    exact Nat.dvd_trans (spacing_dvd_unitsInOne ha hb hPos) (Nat.dvd_mul_left _ _)
  · rw [hQuotient]
    have hStep := mul_spacing_lt ha hb hPos
    generalize twoTo (Format.binary64.spacing (a * unitsInOne / b)) = step at hStep
    have hMore : a / b * b + 1 ≤ a := by
      have hSplit := Nat.div_add_mod' a b
      omega
    calc
      2 * (a / b * unitsInOne * (b * unitsInOne)) + b * unitsInOne * step
          = 2 * (a / b * b * (unitsInOne * unitsInOne)) + b * step * unitsInOne := by ring
      _ < 2 * (a / b * b * (unitsInOne * unitsInOne)) + 2 * unitsInOne * unitsInOne :=
        Nat.add_lt_add_left (Nat.mul_lt_mul_of_pos_right hStep hUnits) _
      _ = 2 * ((a / b * b + 1) * (unitsInOne * unitsInOne)) := by ring
      _ ≤ 2 * (a * (unitsInOne * unitsInOne)) := Nat.mul_le_mul_left 2 (Nat.mul_le_mul_right _ hMore)
      _ = 2 * (a * unitsInOne * unitsInOne) := by ring

theorem floor_of_between {n r : Nat} (held : Format.binary64.Holds r) (hLow : n * unitsInOne < r)
    (hHigh : r < (n + 1) * unitsInOne) : (finite true r held).floor = ofUnits true ((n + 1) * unitsInOne) := by
  have hWhole : r / unitsInOne = n := Nat.div_eq_of_lt_le hLow.le hHigh
  have hRest : r % unitsInOne ≠ 0 := by
    intro hZero
    have hSplit := Nat.div_add_mod' r unitsInOne
    rw [hWhole, hZero] at hSplit
    omega
  simp only [floor, hWhole, bne_iff_ne.mpr hRest, Bool.and_true, if_true]

theorem floor_of_whole {n : Nat} (held : Format.binary64.Holds (n * unitsInOne)) :
    (finite true (n * unitsInOne) held).floor = ofUnits true (n * unitsInOne) := by
  simp only [floor, Nat.mul_mod_left, bne_self_eq_false, Bool.and_false, Bool.false_eq_true, if_false,
    Nat.mul_div_cancel n unitsInOne_pos]

theorem toInt?_floor_neg_div (heldX : Format.binary64.Holds (a * unitsInOne))
    (heldY : Format.binary64.Holds (b * unitsInOne)) (ha : a ≤ maxSafe) (hb : b ≤ maxSafe) (hPos : 0 < b) :
    (finite true (a * unitsInOne) heldX / finite false (b * unitsInOne) heldY).floor.toInt? =
      some (-(a : Int) / b) := by
  have hDen : 0 < b * unitsInOne := Nat.mul_pos hPos unitsInOne_pos
  have hQuotient : a / b + 1 ≤ exactLimit := Nat.succ_le_succ (Nat.le_trans (Nat.div_le_self a b) ha)
  rw [div_finite _ _ _ _ hDen.ne', Bool.xor_false]
  by_cases hRest : a % b = 0
  · have hExact : a * unitsInOne * unitsInOne = a / b * unitsInOne * (b * unitsInOne) := by
      conv => lhs; rw [← Nat.div_mul_cancel (Nat.dvd_of_mod_eq_zero hRest)]
      ring
    have hSigned : -(a : Int) / b = signed true (a / b) := by
      rw [Int.neg_ediv_of_dvd (Int.natCast_dvd_natCast.mpr (Nat.dvd_of_mod_eq_zero hRest)), ← Int.natCast_ediv]
      rfl
    rw [hExact, ofRatio_of_holds true (holds_natural (Nat.le_of_succ_le hQuotient)) hDen, floor_of_whole,
      toInt?_ofUnits true (Nat.le_of_succ_le hQuotient), hSigned]
  · have hLow := lt_round_quotient ha hb hPos hRest
    have hHigh := (round_quotient ha hb hPos).2
    have hCeiling : Format.binary64.round (a * unitsInOne * unitsInOne) (b * unitsInOne) <
        twoTo Format.binary64.ceiling :=
      Nat.lt_trans hHigh (Nat.lt_of_le_of_lt (Nat.mul_le_mul_right _ hQuotient) exactLimit_lt_ceiling)
    have hSigned : -(a : Int) / b = signed true (a / b + 1) := by
      have hNot : ¬ (b : Int) ∣ a := fun hDvd =>
        hRest (Nat.mod_eq_zero_of_dvd (Int.natCast_dvd_natCast.mp hDvd))
      have hSign : (b : Int).sign = 1 := Int.sign_natCast_of_ne_zero hPos.ne'
      rw [Int.neg_ediv, if_neg hNot, hSign, ← Int.natCast_ediv, signed, if_pos rfl]
      omega
    rw [ofRatio_of_lt true hCeiling, floor_of_between _ hLow hHigh, toInt?_ofUnits true hQuotient, hSigned]

theorem toInt?_floor_div {z : Int} (hx : x.toInt? = some z) (hz : z.natAbs ≤ maxSafe) (hy : y.index? = some b)
    (hb : b ≤ maxSafe) (hPos : 0 < b) : (x / y).floor.toInt? = some (z / b) := by
  rcases lt_or_ge z 0 with hNegative | hNonneg
  · obtain ⟨s, u, heldX, rfl, hU⟩ := exists_signed_of_toInt? hx
    obtain ⟨rfl, hSigned⟩ := eq_of_signed hU
    obtain ⟨t, heldY, rfl, hSign⟩ := index?_eq_some_iff.mp hy
    obtain rfl : t = false := Bool.eq_false_iff.mpr fun ht => hPos.ne' (hSign ht)
    obtain rfl : s = true := by
      cases s with
      | true => rfl
      | false =>
        rw [signed, if_neg Bool.false_ne_true] at hSigned
        omega
    have hAbs : -(z.natAbs : Int) = z := by omega
    rw [toInt?_floor_neg_div heldX heldY hz hb hPos, hAbs]
  · have hIndex : x.index? = some z.natAbs := by
      rw [index?_of_toInt? hx, if_pos hNonneg]
      congr 1
      omega
    have hFloor := toInt?_of_index? (index?_floor_div hIndex hy hz hb hPos)
    rw [hFloor, Int.natCast_ediv, Int.natAbs_of_nonneg hNonneg]

end Number

end CubeSlice
