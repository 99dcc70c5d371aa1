import Mathlib.Data.Nat.Dist
import CubeSlice.Number.Rounding
import CubeSlice.Number.Single

/-!
# Nearest values

What rounding to nearest means, said without the way it is computed: no value of the grid is nearer,
and half way between two of them it is the even one. The format's rounding is of this kind
(`Format.isNearest_round`), and there is only one (`Format.IsNearest.unique`). Rounding to single
precision looks at no bound first and then puts an infinity for what lies beyond the format.
-/

namespace CubeSlice

section Quotients

variable {num den : Nat}

theorem exists_divNearest (num : Nat) (hDen : 0 < den) : ∃ quotient rest,
    num = quotient * den + rest ∧ rest < den ∧
      (divNearest num den = quotient ∧ (2 * rest < den ∨ 2 * rest = den ∧ quotient % 2 = 0) ∨
        divNearest num den = quotient + 1 ∧ (den < 2 * rest ∨ 2 * rest = den ∧ quotient % 2 = 1)) := by
  refine ⟨num / den, num % den, (Nat.div_add_mod' num den).symm, Nat.mod_lt num hDen, ?_⟩
  unfold divNearest
  dsimp only
  split <;> omega

theorem dist_divNearest (num : Nat) (hDen : 0 < den) (k : Nat) :
    Nat.dist num (divNearest num den * den) ≤ Nat.dist num (k * den) ∧
      (k ≠ divNearest num den → Nat.dist num (k * den) = Nat.dist num (divNearest num den * den) →
        divNearest num den % 2 = 0 ∧ Nat.dist k (divNearest num den) = 1) := by
  obtain ⟨quotient, rest, hSplit, hRest, hNearest⟩ := exists_divNearest num hDen
  have hNext : (quotient + 1) * den = quotient * den + den := Nat.succ_mul quotient den
  have hWhere : k + 1 ≤ quotient ∨ k = quotient ∨ k = quotient + 1 ∨ quotient + 2 ≤ k := by omega
  simp only [Nat.dist]
  rcases hWhere with hBelow | rfl | rfl | hAbove
  · have hLess := Nat.mul_le_mul_right den hBelow
    rw [Nat.succ_mul] at hLess
    rcases hNearest with ⟨hEq, hRound⟩ | ⟨hEq, hRound⟩ <;> rw [hEq] <;> omega
  · rcases hNearest with ⟨hEq, hRound⟩ | ⟨hEq, hRound⟩ <;> rw [hEq] <;> omega
  · rcases hNearest with ⟨hEq, hRound⟩ | ⟨hEq, hRound⟩ <;> rw [hEq] <;> omega
  · have hMore := Nat.mul_le_mul_right den hAbove
    rw [Nat.add_mul] at hMore
    rcases hNearest with ⟨hEq, hRound⟩ | ⟨hEq, hRound⟩ <;> rw [hEq] <;> omega

end Quotients

namespace Format

/-- The grid value `r` is nearest to `num / den`. Where another one is as near, the gap between both
goes into `r` an even number of times. -/
structure IsNearest (f : Format) (num den r : Nat) : Prop where
  onGrid : f.OnGrid r
  nearest : ∀ g, f.OnGrid g → Nat.dist num (r * den) ≤ Nat.dist num (g * den)
  even : ∀ g, f.OnGrid g → g ≠ r → Nat.dist num (g * den) = Nat.dist num (r * den) →
    2 * Nat.dist g r ∣ r

variable {f : Format} {num den : Nat}

theorem IsNearest.unique {r r' : Nat} (h : f.IsNearest num den r) (h' : f.IsNearest num den r') :
    r = r' := by
  by_contra hne
  have hDist := Nat.le_antisymm (h.nearest r' h'.onGrid) (h'.nearest r h.onGrid)
  have hEven := h.even r' h'.onGrid (Ne.symm hne) hDist.symm
  have hEven' := h'.even r h.onGrid hne hDist
  rw [Nat.dist_comm] at hEven
  -- both are even multiples of the gap, so the gap is one of itself
  have hGap : 2 * Nat.dist r r' ∣ Nat.dist r r' := by
    rw [Nat.dist]
    exact Nat.dvd_add (Nat.dvd_sub hEven hEven') (Nat.dvd_sub hEven' hEven)
  have hPos := Nat.dist_pos_of_ne hne
  have := Nat.le_of_dvd hPos hGap
  omega

theorem isNearest_round (f : Format) (num : Nat) (hDen : 0 < den) :
    f.IsNearest num den (f.round num den) := by
  have hGrid := f.onGrid_round num den
  unfold round at hGrid ⊢
  dsimp only at hGrid ⊢
  generalize hStep : twoTo (f.spacing (num / den)) = step at hGrid ⊢
  have hPos : 0 < den * step := Nat.mul_pos hDen (hStep ▸ twoTo_pos _)
  have hScale (k : Nat) : k * step * den = k * (den * step) := by
    rw [Nat.mul_assoc, Nat.mul_comm step]
  have hBetween {g : Nat} (hg : f.OnGrid g) : step ∣ g ∨ ∃ k, g < k * step ∧ k * step * den ≤ num := by
    rw [← hStep]
    exact hg.dvd_or_between num den
  -- a grid value that is no multiple of the step is farther away than some multiple
  have hFar {g k : Nat} (hBelow : g < k * step) (hLe : k * step * den ≤ num) :
      Nat.dist num (divNearest num (den * step) * step * den) < Nat.dist num (g * den) := by
    have hLess := Nat.mul_lt_mul_of_pos_right hBelow hDen
    have hNearest := (dist_divNearest num hPos k).1
    rw [hScale] at hLess hLe ⊢
    refine Nat.lt_of_le_of_lt hNearest ?_
    simp only [Nat.dist]
    omega
  refine ⟨hGrid, fun g hg => ?_, fun g hg hne hDist => ?_⟩
  · rcases hBetween hg with ⟨k, rfl⟩ | ⟨k, hBelow, hLe⟩
    · rw [Nat.mul_comm step k, hScale, hScale]
      exact (dist_divNearest num hPos k).1
    · exact (hFar hBelow hLe).le
  · rcases hBetween hg with ⟨k, rfl⟩ | ⟨k, hBelow, hLe⟩
    · rw [Nat.mul_comm step k] at hne hDist ⊢
      rw [hScale, hScale] at hDist
      obtain ⟨hEven, hGap⟩ := (dist_divNearest num hPos k).2 (fun hEq => hne (by rw [hEq])) hDist
      rw [Nat.dist_mul_right, hGap, Nat.one_mul]
      exact Nat.mul_dvd_mul_right (Nat.dvd_of_mod_eq_zero hEven) step
    · exact absurd hDist (hFar hBelow hLe).ne'

end Format

namespace Number

/-- The second number is the single-precision value nearest to the first; it is infinite if the
nearest value with enough room for any exponent lies beyond the format. -/
inductive RoundsToSingle : Number → Number → Prop
  | nan : RoundsToSingle nan nan
  | infinite (negative : Bool) : RoundsToSingle (infinite negative) (infinite negative)
  | finite (negative : Bool) {n r : Nat} {held : Format.binary64.Holds n} {held' : Format.binary64.Holds r}
      (nearest : Format.binary32.IsNearest n 1 r) (below : r < twoTo Format.binary32.ceiling) :
      RoundsToSingle (finite negative n held) (finite negative r held')
  | overflow (negative : Bool) {n r : Nat} {held : Format.binary64.Holds n}
      (nearest : Format.binary32.IsNearest n 1 r) (beyond : twoTo Format.binary32.ceiling ≤ r) :
      RoundsToSingle (finite negative n held) (infinite negative)

theorem roundsToSingle_iff {x y : Number} : x.RoundsToSingle y ↔ y = x.toSingle := by
  have hForward (x : Number) : x.RoundsToSingle x.toSingle := by
    match x with
    | nan => exact .nan
    | infinite negative => exact .infinite negative
    | finite negative n held =>
      have hNearest := Format.binary32.isNearest_round n Nat.one_pos
      rw [toSingle_finite]
      split
      · rename_i hBelow
        have hHolds : Format.binary64.Holds (Format.binary32.round n 1) :=
          Format.holds_binary64_of_binary32 ⟨hBelow, hNearest.onGrid⟩
        rw [ofUnits_of_holds negative hHolds]
        exact .finite negative hNearest hBelow
      · rename_i hBeyond
        exact .overflow negative hNearest (Nat.le_of_not_lt hBeyond)
  refine ⟨fun h => ?_, fun h => h ▸ hForward x⟩
  have hBoth := hForward x
  cases h with
  | nan => rfl
  | infinite negative => rfl
  | finite negative nearest below =>
    generalize hy : toSingle _ = y at hBoth
    cases hBoth with
    | finite _ nearest' below' =>
      obtain rfl := nearest.unique nearest'
      rfl
    | overflow _ nearest' beyond =>
      obtain rfl := nearest.unique nearest'
      exact absurd below (Nat.not_lt.mpr beyond)
  | overflow negative nearest beyond =>
    generalize hy : toSingle _ = y at hBoth
    cases hBoth with
    | finite _ nearest' below =>
      obtain rfl := nearest.unique nearest'
      exact absurd below (Nat.not_lt.mpr beyond)
    | overflow _ nearest' _ => rfl

end Number

end CubeSlice
