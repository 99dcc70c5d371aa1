import Mathlib.Algebra.Ring.Parity
import Mathlib.Data.Nat.Dist
import Mathlib.Tactic.Ring
import CubeSlice.Number.Significant
import CubeSlice.Proofs.Number.Nearest
import CubeSlice.Proofs.Number.Text

/-!
# Six digits

Cutting a number to six digits rounds twice: its exact value to the nearest decimal of six digits, and that to the
nearest number. Both keep the order. A second time changes nothing: the decimal that is found then lies between the
number and the first decimal, or else both are so near to each other that no decimal of six digits has room between
them, unless the number is so small that numbers are farther apart than such decimals.
-/

namespace CubeSlice

attribute [local irreducible] twoTo tenTo unitsInOne

theorem pow_le_pow_of_le {a b p q k l : Nat} (hBases : a ^ p ≤ b ^ q) (hExponents : k * q ≤ l * p) (ha : 0 < a)
    (hq : q ≠ 0) : a ^ k ≤ b ^ l := by
  rw [← Nat.pow_le_pow_iff_left hq]
  calc
    (a ^ k) ^ q = a ^ (k * q) := (Nat.pow_mul a k q).symm
    _ ≤ a ^ (l * p) := Nat.pow_le_pow_right ha hExponents
    _ = (a ^ p) ^ l := by rw [Nat.mul_comm, Nat.pow_mul]
    _ ≤ (b ^ q) ^ l := Nat.pow_le_pow_left hBases l
    _ = (b ^ l) ^ q := by rw [← Nat.pow_mul, ← Nat.pow_mul, Nat.mul_comm]

theorem tenTo_le_tenTo {a b : Nat} (h : a ≤ b) : tenTo a ≤ tenTo b := by
  unfold tenTo
  exact Nat.pow_le_pow_right (by decide) h

theorem tenTo_estimate_le {n : Nat} (h : n ≠ 0) : tenTo (n.log2 * 1233 / 4096) ≤ n := by
  have hBases : 10 ^ 1233 ≤ 2 ^ 4096 := by decide +kernel
  have hPower : 10 ^ (n.log2 * 1233 / 4096) ≤ 2 ^ n.log2 :=
    pow_le_pow_of_le hBases (Nat.div_mul_le_self _ _) (by decide) (by decide)
  unfold tenTo
  exact Nat.le_trans hPower (Nat.log2_self_le h)

theorem lt_tenTo_digitCountFrom (n k : Nat) : n < tenTo (digitCountFrom n k) := by
  fun_induction digitCountFrom n k with
  | case1 k hReached ih => exact ih
  | case2 k hAbove => exact Nat.lt_of_not_le hAbove

theorem tenTo_digitCountFrom_le {n k : Nat} (h : k = 0 ∨ tenTo (k - 1) ≤ n) :
    digitCountFrom n k = 0 ∨ tenTo (digitCountFrom n k - 1) ≤ n := by
  fun_induction digitCountFrom n k with
  | case1 k hReached ih => exact ih (.inr hReached)
  | case2 k hAbove => exact h

theorem lt_tenTo_digitCount (n : Nat) : n < tenTo (digitCount n) := lt_tenTo_digitCountFrom n _

theorem tenTo_digitCount_le (n : Nat) : digitCount n = 0 ∨ tenTo (digitCount n - 1) ≤ n := by
  apply tenTo_digitCountFrom_le
  rcases Nat.eq_zero_or_pos n with rfl | hPos
  · exact .inl (by decide)
  · exact .inr (Nat.le_trans (tenTo_le_tenTo (Nat.sub_le _ 1)) (tenTo_estimate_le hPos.ne'))

theorem digitCount_eq {n c : Nat} (hLow : tenTo c ≤ n) (hHigh : n < tenTo (c + 1)) : digitCount n = c + 1 := by
  have hAbove := lt_tenTo_digitCount n
  apply Nat.le_antisymm
  · by_contra hMore
    rcases tenTo_digitCount_le n with hZero | hReached
    · omega
    · have hPower : tenTo (c + 1) ≤ tenTo (digitCount n - 1) := tenTo_le_tenTo (by omega)
      omega
  · by_contra hLess
    have hPower : tenTo (digitCount n) ≤ tenTo c := tenTo_le_tenTo (by omega)
    omega

def sixthPlace (m : Nat) : Nat := tenTo (digitCount m - 6)

/-- `m` cut at its sixth digit, a half going up. -/
def cutSix (m : Nat) : Nat := (2 * m + sixthPlace m) / (2 * sixthPlace m) * sixthPlace m

def IsSixDigit (r : Nat) : Prop := ∃ digits place, digits < 1000000 ∧ r = digits * tenTo place

/-- No decimal of six digits is nearer to `m`; one that is as near is less. -/
structure RoundsToSix (m r : Nat) : Prop where
  sixDigit : IsSixDigit r
  nearest : ∀ g, IsSixDigit g → Nat.dist m r ≤ Nat.dist m g
  away : ∀ g, IsSixDigit g → g ≠ r → Nat.dist m g = Nat.dist m r → g < r

variable {m n r s : Nat}

theorem sixthPlace_pos (m : Nat) : 0 < sixthPlace m := tenTo_pos _

theorem tenTo_six : tenTo 6 = 1000000 := by
  unfold tenTo
  rfl

theorem lt_mul_sixthPlace (m : Nat) : m < 1000000 * sixthPlace m := by
  rw [sixthPlace, ← tenTo_six, ← Number.tenTo_add]
  exact Nat.lt_of_lt_of_le (lt_tenTo_digitCount m) (tenTo_le_tenTo (by omega))

theorem cutSix_bounds (m : Nat) : sixthPlace m ∣ cutSix m ∧ 2 * cutSix m ≤ 2 * m + sixthPlace m ∧
    2 * m < 2 * cutSix m + sixthPlace m := by
  have hPos : 0 < 2 * sixthPlace m := Nat.mul_pos (by decide) (sixthPlace_pos m)
  have hLow := Nat.div_mul_le_self (2 * m + sixthPlace m) (2 * sixthPlace m)
  have hHigh := Nat.lt_div_mul_add (a := 2 * m + sixthPlace m) hPos
  have hTwice : (2 * m + sixthPlace m) / (2 * sixthPlace m) * (2 * sixthPlace m) = 2 * cutSix m := by
    rw [cutSix]
    ring
  rw [hTwice] at hLow hHigh
  exact ⟨Nat.dvd_mul_left _ _, hLow, by omega⟩

theorem isSixDigit_zero : IsSixDigit 0 := ⟨0, 0, by decide, (Nat.zero_mul _).symm⟩

theorem isSixDigit_cutSix (m : Nat) : IsSixDigit (cutSix m) := by
  obtain ⟨⟨q, hq⟩, hLow, -⟩ := cutSix_bounds m
  have hPos := sixthPlace_pos m
  have hBound := lt_mul_sixthPlace m
  have hDigits : q ≤ 1000000 := by
    by_contra hMore
    have hLess : sixthPlace m * 1000001 ≤ sixthPlace m * q := Nat.mul_le_mul_left _ (by omega)
    omega
  rcases Nat.lt_or_eq_of_le hDigits with hSix | rfl
  · exact ⟨q, digitCount m - 6, hSix, by rw [hq, Nat.mul_comm, sixthPlace]⟩
  · refine ⟨1, digitCount m - 6 + 6, by decide, ?_⟩
    rw [hq, Number.tenTo_add, tenTo_six, Nat.one_mul, sixthPlace]

/-- A decimal of six digits is a multiple of the sixth place, or some power of ten lies between it and the value. -/
theorem IsSixDigit.dvd_or_between (h : IsSixDigit r) (m : Nat) :
    sixthPlace m ∣ r ∨ ∃ b, sixthPlace m ∣ b ∧ r < b ∧ b ≤ m := by
  obtain ⟨digits, place, hDigits, rfl⟩ := h
  rcases Nat.lt_or_ge place (digitCount m - 6) with hBelow | hAbove
  · right
    refine ⟨tenTo (digitCount m - 1), ?_, ?_, (tenTo_digitCount_le m).resolve_left (by omega)⟩
    · have hSplit : digitCount m - 1 = digitCount m - 6 + 5 := by omega
      rw [sixthPlace, hSplit, Number.tenTo_add]
      exact Nat.dvd_mul_right _ _
    · calc
        digits * tenTo place < 1000000 * tenTo place := Nat.mul_lt_mul_of_pos_right hDigits (tenTo_pos _)
        _ = tenTo (place + 6) := by rw [Number.tenTo_add, tenTo_six, Nat.mul_comm]
        _ ≤ tenTo (digitCount m - 1) := tenTo_le_tenTo (by omega)
  · left
    obtain ⟨k, rfl⟩ := Nat.exists_eq_add_of_le hAbove
    rw [Number.tenTo_add, sixthPlace, Nat.mul_left_comm]
    exact Nat.dvd_mul_right _ _

theorem dist_cutSix_le_of_dvd (h : sixthPlace m ∣ r) :
    Nat.dist m (cutSix m) ≤ Nat.dist m r ∧ (cutSix m < r → Nat.dist m (cutSix m) < Nat.dist m r) := by
  obtain ⟨⟨q, hq⟩, hLow, hHigh⟩ := cutSix_bounds m
  obtain ⟨k, rfl⟩ := h
  have hApart : sixthPlace m * k = cutSix m ∨ sixthPlace m * k + sixthPlace m ≤ cutSix m ∨
      cutSix m + sixthPlace m ≤ sixthPlace m * k := by
    rw [hq, ← Nat.mul_succ, ← Nat.mul_succ]
    rcases Nat.lt_trichotomy k q with hLess | rfl | hMore
    · exact .inr (.inl (Nat.mul_le_mul_left _ hLess))
    · exact .inl rfl
    · exact .inr (.inr (Nat.mul_le_mul_left _ hMore))
  simp only [Nat.dist]
  omega

theorem dist_cutSix_le (h : IsSixDigit r) :
    Nat.dist m (cutSix m) ≤ Nat.dist m r ∧ (cutSix m < r → Nat.dist m (cutSix m) < Nat.dist m r) := by
  rcases h.dvd_or_between m with hDvd | ⟨b, hDvd, hBelow, hReached⟩
  · exact dist_cutSix_le_of_dvd hDvd
  · have hNear := (dist_cutSix_le_of_dvd hDvd).1
    simp only [Nat.dist] at hNear ⊢
    omega

theorem roundsToSix_cutSix (m : Nat) : RoundsToSix m (cutSix m) where
  sixDigit := isSixDigit_cutSix m
  nearest g hg := (dist_cutSix_le hg).1
  away g hg hNe hDist := by
    by_contra hAbove
    have hFar := (dist_cutSix_le hg).2 (Nat.lt_of_le_of_ne (Nat.le_of_not_lt hAbove) hNe.symm)
    exact absurd hDist hFar.ne'

theorem IsSixDigit.cutSix_eq (h : IsSixDigit m) : cutSix m = m := by
  have hNear := (dist_cutSix_le (m := m) h).1
  rw [Nat.dist_self, Nat.le_zero] at hNear
  exact (Nat.eq_of_dist_eq_zero hNear).symm

theorem IsSixDigit.exists_common_place (hr : IsSixDigit r) (hs : IsSixDigit s) :
    ∃ place a b, r = a * tenTo place ∧ s = b * tenTo place ∧ (a < 1000000 ∨ b < 1000000) := by
  obtain ⟨d, i, hd, rfl⟩ := hr
  obtain ⟨e, j, he, rfl⟩ := hs
  -- At the lower of the two places one of them keeps its digits.
  rcases Nat.le_total i j with hPlace | hPlace
  · obtain ⟨k, rfl⟩ := Nat.exists_eq_add_of_le hPlace
    refine ⟨i, d, e * tenTo k, rfl, ?_, .inl hd⟩
    rw [Number.tenTo_add]
    ring
  · obtain ⟨k, rfl⟩ := Nat.exists_eq_add_of_le hPlace
    refine ⟨j, d * tenTo k, e, ?_, rfl, .inr he⟩
    rw [Number.tenTo_add]
    ring

theorem IsSixDigit.le_mul_sub (hr : IsSixDigit r) (hs : IsSixDigit s) (h : r < s) : s ≤ 1000000 * (s - r) := by
  obtain ⟨place, a, b, rfl, rfl, hSix⟩ := hr.exists_common_place hs
  have hDigits : a < b := Nat.lt_of_mul_lt_mul_right h
  have hRoom : b ≤ 1000000 * (b - a) := by omega
  rw [← Nat.sub_mul, ← Nat.mul_assoc]
  exact Nat.mul_le_mul_right _ hRoom

theorem le_of_dist_le {a b : Nat} (hab : a ≤ b) (hr : Nat.dist a r ≤ Nat.dist a s) (hs : Nat.dist b s ≤ Nat.dist b r)
    (hSame : a = b → r = s) : r ≤ s := by
  by_contra hMore
  have hEq : a = b := by
    simp only [Nat.dist] at hr hs
    omega
  exact hMore (hSame hEq).le

theorem cutSix_le_cutSix (h : m ≤ n) : cutSix m ≤ cutSix n := by
  apply le_of_dist_le h
  · exact (dist_cutSix_le (isSixDigit_cutSix n)).1
  · exact (dist_cutSix_le (isSixDigit_cutSix m)).1
  · intro hSame
    rw [hSame]

namespace Format

variable {f : Format} {num num' den : Nat}

theorem round_le_round (hDen : 0 < den) (h : num ≤ num') : f.round num den ≤ f.round num' den := by
  have hNear := f.isNearest_round num hDen
  have hNear' := f.isNearest_round num' hDen
  refine Nat.le_of_mul_le_mul_right ?_ hDen
  apply le_of_dist_le h
  · exact hNear.nearest _ hNear'.onGrid
  · exact hNear'.nearest _ hNear.onGrid
  · intro hSame
    rw [hSame]

theorem onGrid_mul_twoTo {k e : Nat} (hk : k ≤ twoTo f.precision) (he : f.grain ≤ e) : f.OnGrid (k * twoTo e) := by
  rcases Nat.lt_or_eq_of_le hk with hLess | rfl
  · exact ⟨k, e, hLess, he, rfl⟩
  · exact ⟨1, f.precision + e, one_lt_twoTo f.precision_pos, by omega, by rw [twoTo_add, Nat.one_mul]⟩

theorem OnGrid.neighbours (h : f.OnGrid n) :
    f.OnGrid (n + twoTo (f.spacing n)) ∧ f.OnGrid (n - twoTo (f.spacing n)) := by
  obtain ⟨k, hk⟩ := h.spacing_dvd
  have hGrain : f.grain ≤ f.spacing n := Nat.le_max_left _ _
  have hDigits : k < twoTo f.precision := by
    have hBelow := f.lt_twoTo_spacing n
    rw [twoTo_add] at hBelow
    conv at hBelow => lhs; rw [hk, Nat.mul_comm]
    exact Nat.lt_of_mul_lt_mul_right hBelow
  generalize f.spacing n = e at hk hGrain
  have hAbove : n + twoTo e = (k + 1) * twoTo e := by
    rw [hk]
    ring
  have hBelow : n - twoTo e = (k - 1) * twoTo e := by rw [hk, Nat.sub_mul, Nat.one_mul, Nat.mul_comm]
  rw [hAbove, hBelow]
  exact ⟨onGrid_mul_twoTo hDigits hGrain, onGrid_mul_twoTo (by omega) hGrain⟩

theorem IsNearest.dist_le (h : f.IsNearest num den r) (hDen : 0 < den) :
    2 * Nat.dist num (r * den) ≤ twoTo (f.spacing r) * den := by
  obtain ⟨hAbove, hBelow⟩ := h.onGrid.neighbours
  have hPos : 0 < twoTo (f.spacing r) * den := Nat.mul_pos (twoTo_pos _) hDen
  have hNearAbove := h.nearest _ hAbove
  have hNearBelow := h.nearest _ hBelow
  rw [Nat.add_mul] at hNearAbove
  rw [Nat.sub_mul] at hNearBelow
  simp only [Nat.dist] at hNearAbove hNearBelow ⊢
  omega

theorem round_of_dist_lt (hGrid : f.OnGrid n) (hNear : 2 * Nat.dist num (n * den) < den) : f.round num den = n := by
  have hDen : 0 < den := by omega
  have hFar {g : Nat} (hNe : g ≠ n) : Nat.dist num (n * den) < Nat.dist num (g * den) := by
    have hApart : g * den + den ≤ n * den ∨ n * den + den ≤ g * den := by
      rw [← Nat.succ_mul, ← Nat.succ_mul]
      rcases Nat.lt_or_gt_of_ne hNe with hLess | hMore
      · exact .inl (Nat.mul_le_mul_right _ hLess)
      · exact .inr (Nat.mul_le_mul_right _ hMore)
    simp only [Nat.dist] at hNear ⊢
    omega
  have hNearest : f.IsNearest num den n := by
    refine ⟨hGrid, fun g _ => ?_, fun g _ hNe hDist => absurd hDist (hFar hNe).ne'⟩
    rcases eq_or_ne g n with rfl | hNe
    · exact Nat.le_refl _
    · exact (hFar hNe).le
  exact (f.isNearest_round num hDen).unique hNearest

theorem spacing_binary64 (hn : n ≠ 0) :
    binary64.spacing n = 0 ∨ twoTo 52 * twoTo (binary64.spacing n) ≤ n := by
  have hSpacing : binary64.spacing n = n.log2 + 1 - 53 := Nat.zero_max _
  rcases Nat.eq_zero_or_pos (binary64.spacing n) with hZero | hPos
  · exact .inl hZero
  · right
    have hLog : 52 + binary64.spacing n = n.log2 := by omega
    have hLead : twoTo n.log2 ≤ n := by
      unfold twoTo
      exact Nat.log2_self_le hn
    rwa [← twoTo_add, hLog]

end Format

/-- Next to fine numbers, decimals of six digits are farther apart than numbers are. -/
theorem IsSixDigit.spacing_lt_sub {den : Nat} (hr : IsSixDigit r) (hs : IsSixDigit s) (h : r < s) (hDen : 0 < den)
    (hFine : twoTo 52 * twoTo (Format.binary64.spacing n) ≤ n) (hAbove : n * den ≤ s) :
    twoTo (Format.binary64.spacing n) * den < s - r := by
  by_contra hNear
  have hScale : 1000000 < twoTo 52 := by decide +kernel
  have hSize : twoTo 52 * (twoTo (Format.binary64.spacing n) * den) ≤
      1000000 * (twoTo (Format.binary64.spacing n) * den) :=
    calc
      twoTo 52 * (twoTo (Format.binary64.spacing n) * den) = twoTo 52 * twoTo (Format.binary64.spacing n) * den :=
        (Nat.mul_assoc _ _ _).symm
      _ ≤ n * den := Nat.mul_le_mul_right _ hFine
      _ ≤ s := hAbove
      _ ≤ 1000000 * (s - r) := hr.le_mul_sub hs h
      _ ≤ 1000000 * (twoTo (Format.binary64.spacing n) * den) := Nat.mul_le_mul_left _ (Nat.le_of_not_lt hNear)
  have hSmall := Nat.le_of_mul_le_mul_right hSize (Nat.mul_pos (twoTo_pos _) hDen)
  omega

namespace Format

variable {den : Nat}

theorem round_cutSix_of_fine (hr : IsSixDigit r) (hDen : 0 < den) (hNearest : binary64.IsNearest r den n)
    (hFine : twoTo 52 * twoTo (binary64.spacing n) ≤ n) : binary64.round (cutSix (n * den)) den = n := by
  have hHalf := hNearest.dist_le hDen
  have hCut := (dist_cutSix_le (m := n * den) hr).1
  have hSix := isSixDigit_cutSix (n * den)
  have hSelf : binary64.round (n * den) den = n := round_of_onGrid hNearest.onGrid hDen
  have hBack : binary64.round r den = n := (binary64.isNearest_round r hDen).unique hNearest
  simp only [Nat.dist] at hHalf hCut
  -- The decimal that is found lies between the number and `r`. On the other side of the number there is no room for it.
  rcases Nat.le_total (n * den) r with hAbove | hBelow
  · have hSide : n * den ≤ cutSix (n * den) := by
      by_contra hOther
      have hFar := hSix.spacing_lt_sub hr (by omega) hDen hFine hAbove
      omega
    have hBetween : cutSix (n * den) ≤ r := by omega
    apply Nat.le_antisymm
    · exact Nat.le_trans (round_le_round hDen hBetween) hBack.le
    · exact Nat.le_trans hSelf.ge (round_le_round hDen hSide)
  · have hSide : cutSix (n * den) ≤ n * den := by
      by_contra hOther
      have hFar := hr.spacing_lt_sub hSix (by omega) hDen hFine (by omega)
      omega
    have hBetween : r ≤ cutSix (n * den) := by omega
    apply Nat.le_antisymm
    · exact Nat.le_trans (round_le_round hDen hSide) hSelf.le
    · exact Nat.le_trans hBack.ge (round_le_round hDen hBetween)

/-- A number nearest to a decimal of six digits is nearest to the one that it is cut to itself. -/
theorem round_cutSix (hr : IsSixDigit r) (hOdd : Odd den) (hn : binary64.round r den = n) :
    binary64.round (cutSix (n * den)) den = n := by
  have hDen : 0 < den := hOdd.pos
  have hNearest : binary64.IsNearest r den n := hn ▸ binary64.isNearest_round r hDen
  rcases Nat.eq_zero_or_pos n with rfl | hPos
  · have hSelf : binary64.round (0 * den) den = 0 := round_of_onGrid hNearest.onGrid hDen
    rw [Nat.zero_mul] at hSelf ⊢
    rw [isSixDigit_zero.cutSix_eq, hSelf]
  rcases spacing_binary64 hPos.ne' with hUnit | hFine
  · -- A unit has an odd number of parts, so that nothing is half a unit away.
    have hOne : twoTo 0 = 1 := by
      unfold twoTo
      rfl
    have hHalf := hNearest.dist_le hDen
    have hCut := (dist_cutSix_le (m := n * den) hr).1
    rw [hUnit, hOne, Nat.one_mul, Nat.dist_comm] at hHalf
    apply round_of_dist_lt hNearest.onGrid
    obtain ⟨k, hk⟩ := hOdd
    rw [Nat.dist_comm]
    omega
  · exact round_cutSix_of_fine hr hDen hNearest hFine

end Format

end CubeSlice
