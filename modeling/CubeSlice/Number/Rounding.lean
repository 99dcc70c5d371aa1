import CubeSlice.Number.Format

/-!
# Rounding and the grid

A quotient that reaches a value of the format's grid is not rounded below it. A quotient that stays
well below a multiple of the spacing is rounded below that multiple.
-/

namespace CubeSlice

theorem le_divNearest {k num den : Nat} (hDen : 0 < den) (h : k * den ≤ num) :
    k ≤ divNearest num den :=
  Nat.le_trans ((Nat.le_div_iff_mul_le hDen).mpr h) (div_le_divNearest num den)

theorem divNearest_lt {k num den : Nat} (hDen : 0 < den) (h : 2 * num + den < 2 * (k * den)) :
    divNearest num den < k := by
  have hSplit : den * (num / den) + num % den = num := Nat.div_add_mod num den
  have hRest := Nat.mod_lt num hDen
  have hDiv : num / den < k := by
    rw [Nat.div_lt_iff_lt_mul hDen]
    omega
  unfold divNearest
  dsimp only
  split
  · exact hDiv
  · rename_i hFar
    have hHalf : den ≤ 2 * (num % den) := by omega
    rcases Nat.lt_or_eq_of_le (Nat.succ_le_of_lt hDiv) with hLt | hEq
    · exact hLt
    · have hTop : k * den = den * (num / den) + den := by
        rw [← hEq, Nat.succ_mul, Nat.mul_comm]
      omega

namespace Format

variable {f : Format} {num den g : Nat}

theorem OnGrid.dvd_or_lt (h : f.OnGrid g) (q : Nat) :
    twoTo (f.spacing q) ∣ g ∨ (q ≠ 0 ∧ g < twoTo q.log2 ∧ q.log2 + 1 = f.precision + f.spacing q) := by
  obtain ⟨m, e, hm, he, rfl⟩ := h
  rcases Nat.lt_or_ge e (f.spacing q) with hLarge | hSmall
  · right
    have hLog : q.log2 + 1 = f.precision + f.spacing q := by
      unfold spacing at *
      omega
    have hExp : f.precision + e ≤ q.log2 := by omega
    refine ⟨?_, ?_, hLog⟩
    · rintro rfl
      have hPrecision := f.precision_pos
      have hZero : Nat.log2 0 = 0 := by decide
      omega
    · refine Nat.lt_of_lt_of_le ?_ (twoTo_le_twoTo hExp)
      rw [twoTo_add]
      exact Nat.mul_lt_mul_of_pos_right hm (twoTo_pos e)
  · left
    exact Nat.dvd_trans (twoTo_dvd_twoTo hSmall) (Nat.dvd_mul_left _ _)

/-- A grid value is a multiple of the spacing, or some multiple lies between it and the quotient. -/
theorem OnGrid.dvd_or_between (h : f.OnGrid g) (num den : Nat) :
    twoTo (f.spacing (num / den)) ∣ g ∨
      ∃ k, g < k * twoTo (f.spacing (num / den)) ∧ k * twoTo (f.spacing (num / den)) * den ≤ num := by
  rcases h.dvd_or_lt (num / den) with hDvd | ⟨hNonzero, hBelow, hLog⟩
  · exact .inl hDvd
  · -- the quotient has more bits than `g`: already its leading bit is such a multiple
    have hPower : twoTo (f.precision - 1) * twoTo (f.spacing (num / den)) = twoTo (num / den).log2 := by
      have hPrecision := f.precision_pos
      rw [← twoTo_add]
      congr 1
      omega
    refine .inr ⟨twoTo (f.precision - 1), by rwa [hPower], ?_⟩
    calc
      twoTo (f.precision - 1) * twoTo (f.spacing (num / den)) * den = twoTo (num / den).log2 * den := by
        rw [hPower]
      _ ≤ num / den * den := Nat.mul_le_mul_right _ (Nat.log2_self_le hNonzero)
      _ ≤ num := Nat.div_mul_le_self num den

theorem le_round_of_onGrid (hGrid : f.OnGrid g) (hDen : 0 < den) (h : g * den ≤ num) :
    g ≤ f.round num den := by
  unfold round
  dsimp only
  have hStep := twoTo_pos (f.spacing (num / den))
  have hMultiple {k : Nat} (hReached : k * twoTo (f.spacing (num / den)) * den ≤ num) :
      k ≤ divNearest num (den * twoTo (f.spacing (num / den))) := by
    refine le_divNearest (Nat.mul_pos hDen hStep) ?_
    rwa [Nat.mul_comm den, ← Nat.mul_assoc]
  rcases hGrid.dvd_or_between num den with ⟨k, rfl⟩ | ⟨k, hBelow, hReached⟩
  · rw [Nat.mul_comm] at h ⊢
    exact Nat.mul_le_mul_right _ (hMultiple (by rwa [Nat.mul_comm k, Nat.mul_comm]))
  · exact Nat.le_trans (Nat.le_of_lt hBelow) (Nat.mul_le_mul_right _ (hMultiple hReached))

theorem round_lt (hDen : 0 < den) (hDvd : twoTo (f.spacing (num / den)) ∣ g)
    (h : 2 * num + den * twoTo (f.spacing (num / den)) < 2 * (g * den)) : f.round num den < g := by
  obtain ⟨k, hk⟩ := hDvd
  have hStep := twoTo_pos (f.spacing (num / den))
  have hScale : g * den = k * (den * twoTo (f.spacing (num / den))) := by
    conv => lhs; rw [hk]
    rw [Nat.mul_comm den, ← Nat.mul_assoc, Nat.mul_comm k]
  rw [hScale] at h
  have hNearest := divNearest_lt (Nat.mul_pos hDen hStep) h
  unfold round
  dsimp only
  conv => rhs; rw [hk]
  rw [Nat.mul_comm (twoTo _) k]
  exact Nat.mul_lt_mul_of_pos_right hNearest hStep

end Format

end CubeSlice
