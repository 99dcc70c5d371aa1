import CubeSlice.Number.Power

/-!
# Binary formats and rounding to nearest

Magnitudes are counted in units of `2 ^ -1074`, the least positive binary64 number, so that every
finite magnitude of either format is a natural number. `Format.round` takes an exact quotient to
the nearest multiple of the spacing that belongs to its size; a tie goes to the even multiple.
Rounding lands on the format's grid (`onGrid_round`) and leaves the grid fixed (`round_of_onGrid`).
-/

namespace CubeSlice

/-- The integer nearest to `num / den`; a half goes to the even neighbour. -/
def divNearest (num den : Nat) : Nat :=
  let quotient := num / den
  let rest := num % den
  if 2 * rest < den ∨ (2 * rest = den ∧ quotient % 2 = 0) then quotient else quotient + 1

theorem div_le_divNearest (num den : Nat) : num / den ≤ divNearest num den := by
  unfold divNearest
  dsimp only
  split <;> omega

theorem divNearest_le_succ (num den : Nat) : divNearest num den ≤ num / den + 1 := by
  unfold divNearest
  dsimp only
  split <;> omega

theorem divNearest_mul_right (k : Nat) {den : Nat} (h : 0 < den) :
    divNearest (k * den) den = k := by
  simp [divNearest, Nat.mul_div_cancel k h, h]

/-- A binary floating-point format. Its numbers have at most `precision` significant bits, are
multiples of `2 ^ grain` units and stay below `2 ^ ceiling` units. -/
structure Format where
  precision : Nat
  grain : Nat
  ceiling : Nat
  precision_pos : 0 < precision

namespace Format

def binary64 : Format := ⟨53, 0, 2098, by decide⟩

def binary32 : Format := ⟨24, 925, 1202, by decide⟩

/-- The exponent of the spacing between neighbours of `n`. -/
def spacing (f : Format) (n : Nat) : Nat :=
  max f.grain (n.log2 + 1 - f.precision)

/-- The grid value nearest to `num / den` units, before any overflow is looked at. -/
def round (f : Format) (num den : Nat) : Nat :=
  let step := twoTo (f.spacing (num / den))
  divNearest num (den * step) * step

/-- A magnitude that needs no rounding. -/
def OnGrid (f : Format) (n : Nat) : Prop :=
  ∃ m e, m < twoTo f.precision ∧ f.grain ≤ e ∧ n = m * twoTo e

/-- A magnitude that the format holds exactly. -/
def Holds (f : Format) (n : Nat) : Prop := n < twoTo f.ceiling ∧ f.OnGrid n

theorem lt_twoTo_spacing (f : Format) (n : Nat) : n < twoTo (f.precision + f.spacing n) := by
  refine Nat.lt_of_lt_of_le (lt_twoTo_log2_succ n) (twoTo_le_twoTo ?_)
  unfold spacing
  omega

theorem onGrid_zero (f : Format) : f.OnGrid 0 :=
  ⟨0, f.grain, twoTo_pos _, Nat.le_refl _, by simp⟩

theorem holds_zero (f : Format) : f.Holds 0 := ⟨twoTo_pos _, f.onGrid_zero⟩

theorem onGrid_round (f : Format) (num den : Nat) : f.OnGrid (f.round num den) := by
  unfold round
  dsimp only
  generalize he : f.spacing (num / den) = e
  have hgrain : f.grain ≤ e := by
    rw [← he]
    exact Nat.le_max_left _ _
  have hlt : num / (den * twoTo e) < twoTo f.precision := by
    rw [← Nat.div_div_eq_div_mul, Nat.div_lt_iff_lt_mul (twoTo_pos e), ← twoTo_add, ← he]
    exact f.lt_twoTo_spacing _
  have hle := divNearest_le_succ num (den * twoTo e)
  rcases Nat.lt_or_ge (divNearest num (den * twoTo e)) (twoTo f.precision) with h | h
  · exact ⟨_, e, h, hgrain, rfl⟩
  · have heq : divNearest num (den * twoTo e) = twoTo f.precision := by omega
    refine ⟨1, f.precision + e, one_lt_twoTo f.precision_pos, by omega, ?_⟩
    rw [heq, Nat.one_mul, twoTo_add]

theorem OnGrid.spacing_dvd {f : Format} {n : Nat} (h : f.OnGrid n) : twoTo (f.spacing n) ∣ n := by
  obtain ⟨m, e, hm, he, rfl⟩ := h
  rcases Nat.eq_zero_or_pos m with rfl | hpos
  · simp
  · have hne : m * twoTo e ≠ 0 := Nat.ne_of_gt (Nat.mul_pos hpos (twoTo_pos e))
    have hlog : (m * twoTo e).log2 < f.precision + e := by
      rw [log2_lt_iff hne, twoTo_add]
      exact Nat.mul_lt_mul_of_pos_right hm (twoTo_pos e)
    have hspacing : f.spacing (m * twoTo e) ≤ e := by
      unfold spacing
      omega
    exact Nat.dvd_trans (twoTo_dvd_twoTo hspacing) (Nat.dvd_mul_left _ _)

theorem round_of_onGrid {f : Format} {n : Nat} (h : f.OnGrid n) {den : Nat} (hden : 0 < den) :
    f.round (n * den) den = n := by
  obtain ⟨k, hk⟩ := h.spacing_dvd
  unfold round
  dsimp only
  rw [Nat.mul_div_cancel n hden]
  generalize f.spacing n = e at hk
  have hsplit : n * den = k * (den * twoTo e) := by
    rw [hk, Nat.mul_comm (twoTo e) k, Nat.mul_assoc, Nat.mul_comm (twoTo e) den]
  rw [hsplit, divNearest_mul_right k (Nat.mul_pos hden (twoTo_pos e)), hk, Nat.mul_comm]

end Format

end CubeSlice
