import CubeSlice.Proofs.Number.Quotient

/-!
# The limit of exact counts

Counting up by one stops at `2 ^ 53`: the number behind it is rounded back to it. From `2 ^ 54` on counting down by one
does not lead anywhere either.
-/

namespace CubeSlice.Number

theorem ofNat_succ {j : Nat} (h : j < exactLimit) : Number.ofNat j + Number.ofNat 1 = Number.ofNat (j + 1) :=
  eq_ofNat_of_index? (index?_add (index?_ofNat h.le) (index?_ofNat (by decide)) h) (Nat.succ_pos j) h

theorem ofNat_exactLimit_add_one : Number.ofNat exactLimit + Number.ofNat 1 = Number.ofNat exactLimit := by
  decide +kernel

theorem onGrid_double_exactLimit : Format.binary64.OnGrid (2 * exactLimit * unitsInOne) :=
  ⟨1, 1128, by decide +kernel, by decide, by decide +kernel⟩

/-- From `2 ^ 54` on neighbours on the grid are four apart. -/
theorem four_dvd_of_vast {g : Nat} (hg : Format.binary64.OnGrid g) (hLarge : 2 * exactLimit * unitsInOne ≤ g) :
    4 * unitsInOne ∣ g := by
  have hPower : twoTo 1128 = 2 * exactLimit * unitsInOne := by decide +kernel
  have hStep : twoTo 1076 = 4 * unitsInOne := by decide +kernel
  have hPrecision : Format.binary64.precision = 53 := rfl
  have hPos : 0 < twoTo 1128 := twoTo_pos 1128
  have hLog : 1128 ≤ g.log2 := by
    rw [← Nat.not_lt, log2_lt_iff (by omega)]
    omega
  have hSpacing : 1076 ≤ Format.binary64.spacing g := by
    rw [Format.spacing, hPrecision]
    omega
  rw [← hStep]
  exact (twoTo_dvd_twoTo hSpacing).trans hg.spacing_dvd

theorem round_sub_one {n : Nat} (hGrid : Format.binary64.OnGrid (n * unitsInOne)) (hn : 2 * exactLimit ≤ n) :
    Format.binary64.round (n * unitsInOne - unitsInOne) 1 = n * unitsInOne := by
  rcases Nat.lt_or_eq_of_le hn with hMore | rfl
  · have hNear := Format.binary64.isNearest_round (n * unitsInOne - unitsInOne) Nat.one_pos
    have hAbove := hNear.le_of_onGrid Nat.one_pos hGrid (by omega)
    have hNearest := hNear.nearest _ hGrid
    have hBelow : (2 * exactLimit + 1) * unitsInOne ≤ n * unitsInOne := Nat.mul_le_mul_right _ hMore
    rw [Nat.add_mul, Nat.one_mul] at hBelow
    have hLarge := Format.le_round_of_onGrid onGrid_double_exactLimit Nat.one_pos
      (show 2 * exactLimit * unitsInOne * 1 ≤ n * unitsInOne - unitsInOne by omega)
    obtain ⟨a, ha⟩ := four_dvd_of_vast (Format.binary64.onGrid_round _ 1) hLarge
    obtain ⟨b, hb⟩ := four_dvd_of_vast hGrid (by omega)
    rcases Nat.lt_or_ge a b with hLess | hMore
    · have hStep := Nat.mul_le_mul_left (4 * unitsInOne) (Nat.succ_le_of_lt hLess)
      have hPos := unitsInOne_pos
      rw [Nat.mul_succ, ← ha, ← hb] at hStep
      simp only [Nat.dist, Nat.mul_one] at hNearest
      omega
    · refine Nat.le_antisymm hAbove ?_
      rw [ha, hb]
      exact Nat.mul_le_mul_left _ hMore
  -- the number before `2 ^ 54` itself is a tie
  · decide +kernel

theorem sub_one_of_vast {x : Number} {n : Nat} (hx : x.index? = some n) (hn : 2 * exactLimit ≤ n) :
    x - ofNat 1 = x := by
  have hPos : 0 < n := Nat.lt_of_lt_of_le (by decide) hn
  obtain ⟨s, held, rfl, hSign⟩ := index?_eq_some_iff.mp hx
  obtain rfl : s = false := by
    rw [← Bool.not_eq_true]
    exact fun hNegative => absurd (hSign hNegative) (Nat.ne_of_gt hPos)
  have hUnits : unitsInOne ≤ n * unitsInOne := Nat.le_mul_of_pos_left _ hPos
  have hOne : ofNat 1 = finite false (1 * unitsInOne) (holds_natural (by decide)) := ofUnits_of_holds _ _
  have hDifference : signed false (n * unitsInOne) + signed (!false) (1 * unitsInOne) =
      ((n * unitsInOne - unitsInOne : Nat) : Int) := by
    rw [signed_not, Nat.one_mul]
    exact (Int.ofNat_sub hUnits).symm
  have hSome : n * unitsInOne - unitsInOne ≠ 0 := by
    have hDouble : 2 * unitsInOne ≤ n * unitsInOne := Nat.mul_le_mul_right _ (Nat.le_trans (by decide) hn)
    have hUnitsPos := unitsInOne_pos
    omega
  have hRound := round_sub_one held.2 hn
  have hBelow : Format.binary64.round (n * unitsInOne - unitsInOne) 1 < twoTo Format.binary64.ceiling :=
    hRound.trans_lt held.1
  rw [hOne, sub_finite, add_of_signed _ _ hDifference, if_neg hSome, ofUnits, ofRatio, dif_pos hBelow]
  simp only [hRound]

end CubeSlice.Number
