import Mathlib.Algebra.Order.Field.Basic
import Mathlib.Tactic.LinearCombination
import CubeSlice.Proofs.Number.Exact
import CubeSlice.Proofs.Number.Nearest

/-!
# Quotients

The quotient of two finite numbers is the finite number nearest to the exact one, as long as that does not
leave the integers that are held exactly: `Number.nearestTo_div`.
-/

namespace CubeSlice

theorem Format.IsNearest.le_of_onGrid {f : Format} {num den r g : Nat} (h : f.IsNearest num den r) (hDen : 0 < den)
    (hGrid : f.OnGrid g) (hLe : num ≤ g * den) : r ≤ g := by
  by_contra hMore
  have hFar : g * den < r * den := Nat.mul_lt_mul_of_pos_right (Nat.not_le.mp hMore) hDen
  have hNear := h.nearest g hGrid
  simp only [Nat.dist] at hNear
  omega

namespace Number

attribute [local irreducible] unitsInOne twoTo

/-- No finite number is nearer to `q`. Where another one is as near, the gap between both goes into this one an
even number of times. -/
def NearestTo (x : Number) (q : ℚ) : Prop :=
  ∃ a, x.value? = some a ∧ ∀ (y : Number) (b : ℚ), y.value? = some b → |q - a| ≤ |q - b| ∧
    (b ≠ a → |q - b| = |q - a| → ∃ k : Int, a = 2 * k * (b - a))

variable {s t : Bool} {num den r g : Nat}

theorem natAbs_signed_sub (s : Bool) (m k : Nat) : (signed s m - signed s k).natAbs = Nat.dist m k := by
  cases s <;> simp [signed, Nat.dist] <;> omega

theorem natAbs_signed_sub_of_ne (h : s ≠ t) (m k : Nat) : (signed s m - signed t k).natAbs = m + k := by
  cases s <;> cases t <;> simp [signed] at h ⊢ <;> omega

theorem exists_even_multiple (s : Bool) (h : 2 * Nat.dist g r ∣ r) :
    ∃ k : Int, signed s r = 2 * k * (signed s g - signed s r) := by
  have hDvd : 2 * (signed s g - signed s r) ∣ signed s r := by
    rw [← Int.natAbs_dvd_natAbs, Int.natAbs_mul, natAbs_signed_sub, natAbs_signed]
    exact h
  obtain ⟨k, hk⟩ := hDvd
  exact ⟨k, by rw [mul_right_comm]; exact hk⟩

theorem abs_sub_value (hDen : 0 < den) (z w : Int) :
    |(z : ℚ) / (den * unitsInOne) - w / unitsInOne| = (z - w * den).natAbs / (den * unitsInOne) := by
  have hUnits : (0 : ℚ) < unitsInOne := by exact_mod_cast unitsInOne_pos
  have hDen : (0 : ℚ) < den := by exact_mod_cast hDen
  have hScale : (w : ℚ) / unitsInOne = w * den / (den * unitsInOne) := by
    rw [mul_comm (w : ℚ), mul_div_mul_left _ _ hDen.ne']
  rw [hScale, ← sub_div, abs_div, abs_of_pos (mul_pos hDen hUnits), Nat.cast_natAbs]
  push_cast
  rfl

theorem nearestTo_of_isNearest {held : Format.binary64.Holds r} (hDen : 0 < den)
    (h : Format.binary64.IsNearest num den r) :
    (finite s r held).NearestTo ((signed s num : ℚ) / (den * unitsInOne)) := by
  have hUnits : (0 : ℚ) < unitsInOne := by exact_mod_cast unitsInOne_pos
  have hScale : (0 : ℚ) < den * unitsInOne := mul_pos (by exact_mod_cast hDen) hUnits
  have hHere : (signed s num - signed s r * den).natAbs = Nat.dist num (r * den) := by
    rw [← signed_mul_natCast, natAbs_signed_sub]
  refine ⟨_, rfl, fun y b hy => ?_⟩
  obtain ⟨t, g, held', rfl, -⟩ := value?_eq_some_iff.mp hy
  obtain rfl := Option.some.inj hy
  rw [abs_sub_value hDen, abs_sub_value hDen, div_le_div_iff_of_pos_right hScale, div_left_inj' hScale.ne', hHere,
    Nat.cast_le, Nat.cast_inj]
  by_cases hSide : signed t g = signed s g
  · rw [hSide]
    have hThere : (signed s num - signed s g * den).natAbs = Nat.dist num (g * den) := by
      rw [← signed_mul_natCast, natAbs_signed_sub]
    rw [hThere]
    refine ⟨h.nearest g held'.2, fun hne hDist => ?_⟩
    obtain ⟨k, hk⟩ := exists_even_multiple s (h.even g held'.2 (fun hEq => hne (by rw [hEq])) hDist)
    refine ⟨k, ?_⟩
    rw [← sub_div, ← mul_div_assoc]
    exact_mod_cast congrArg (fun z : Int => (z : ℚ) / unitsInOne) hk
  · -- on the other side of zero, which itself is no farther away than the value
    have hSign : s ≠ t := fun hEq => hSide (by rw [hEq])
    have hPos : 0 < g := by
      refine Nat.pos_of_ne_zero fun hZero => hSide ?_
      rw [hZero]
      cases s <;> cases t <;> rfl
    have hThere : (signed s num - signed t g * den).natAbs = num + g * den := by
      rw [← signed_mul_natCast, natAbs_signed_sub_of_ne hSign]
    have hZero := h.nearest 0 (Format.onGrid_zero _)
    have hFar : 0 < g * den := Nat.mul_pos hPos hDen
    rw [Nat.zero_mul, Nat.dist_zero_right] at hZero
    rw [hThere]
    exact ⟨by omega, fun _ hDist => by omega⟩

variable {x y : Number} {a b : ℚ}

/-- There is one such value: of two the gap would be an even multiple of itself. -/
theorem NearestTo.unique {q : ℚ} (hx : x.NearestTo q) (hy : y.NearestTo q) : x.value? = y.value? := by
  obtain ⟨a, hA, hNearA⟩ := hx
  obtain ⟨b, hB, hNearB⟩ := hy
  rw [hA, hB]
  by_contra hNe
  have hNe : b ≠ a := fun hEq => hNe (by rw [hEq])
  have hDist := le_antisymm (hNearA y b hB).1 (hNearB x a hA).1
  obtain ⟨k, hK⟩ := (hNearA y b hB).2 hNe hDist.symm
  obtain ⟨l, hL⟩ := (hNearB x a hA).2 hNe.symm hDist
  have hGap : (b - a) * (1 + 2 * (k + l)) = 0 := by linear_combination hL - hK
  have hOne : (1 : ℚ) + 2 * (k + l) = 0 := (mul_eq_zero.mp hGap).resolve_left (sub_ne_zero.mpr hNe)
  have hInt : (1 : Int) + 2 * (k + l) = 0 := by exact_mod_cast hOne
  omega

theorem signed_div_signed (s t : Bool) (m k : Nat) : (signed s m : ℚ) / signed t k = signed (s ^^ t) m / k := by
  cases s <;> cases t <;> simp [signed, neg_div, div_neg]

theorem nearestTo_div (hx : x.value? = some a) (hy : y.value? = some b) (hb : b ≠ 0) (hLimit : |a / b| ≤ exactLimit) :
    (x / y).NearestTo (a / b) := by
  obtain ⟨s, u, heldX, rfl, hU⟩ := value?_eq_some_iff.mp hx
  obtain ⟨t, v, heldY, rfl, hV⟩ := value?_eq_some_iff.mp hy
  have hUnits : (0 : ℚ) < unitsInOne := by exact_mod_cast unitsInOne_pos
  have hPos : 0 < v := by
    refine Nat.pos_of_ne_zero fun hZero => mul_ne_zero hb hUnits.ne' ?_
    rw [← hV, hZero]
    cases t <;> rfl
  have hValue : a / b = (signed (s ^^ t) u : ℚ) / v := by
    rw [← mul_div_mul_right a b hUnits.ne', ← hU, ← hV, signed_div_signed]
  have hQuotient : a / b = (signed (s ^^ t) (u * unitsInOne) : ℚ) / (v * unitsInOne) := by
    rw [hValue, signed_mul_natCast, Int.cast_mul, Int.cast_natCast, mul_div_mul_right _ _ hUnits.ne']
  have hUnder : u * unitsInOne ≤ exactLimit * unitsInOne * v := by
    have hv : (0 : ℚ) < v := by exact_mod_cast hPos
    have hMagnitude : |(signed (s ^^ t) u : ℚ)| = u := by
      rw [← Int.cast_abs, Int.abs_eq_natAbs, natAbs_signed, Int.cast_natCast]
    rw [hValue, abs_div, hMagnitude, abs_of_pos hv, div_le_iff₀ hv] at hLimit
    have hNatural : u ≤ exactLimit * v := by exact_mod_cast hLimit
    rw [Nat.mul_right_comm]
    exact Nat.mul_le_mul_right _ hNatural
  have hNearest := Format.binary64.isNearest_round (u * unitsInOne) hPos
  have hBelow : Format.binary64.round (u * unitsInOne) v < twoTo Format.binary64.ceiling :=
    Nat.lt_of_le_of_lt (hNearest.le_of_onGrid hPos (onGrid_natural (Nat.le_refl exactLimit)) hUnder)
      exactLimit_lt_ceiling
  rw [div_finite _ _ heldX heldY hPos.ne', ofRatio_of_lt _ hBelow, hQuotient]
  exact nearestTo_of_isNearest hPos hNearest

end Number

end CubeSlice
