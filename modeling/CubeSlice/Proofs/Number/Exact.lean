import Mathlib.Algebra.Order.Field.Rat
import Mathlib.Algebra.Order.Ring.Int
import CubeSlice.Number.Natural

/-!
# Exact values

A finite number stands for a rational number, which the two zeros share. Where the exact sum or product of
two finite numbers is an integer of at most `2 ^ 53` in magnitude, the rounded one is that integer.
-/

namespace CubeSlice.Number

attribute [local irreducible] unitsInOne twoTo

/-- The rational number that a finite number stands for. -/
def value? : Number → Option ℚ
  | finite s n _ => some ((signed s n : ℚ) / unitsInOne)
  | _ => none

variable {x y : Number} {a b : ℚ} {z : Int} {n : Nat}

theorem signed_mul_natCast (s : Bool) (m k : Nat) : signed s (m * k) = signed s m * k := by
  cases s with
  | false => exact Int.natCast_mul m k
  | true => simp [signed]

theorem signed_mul_signed (s t : Bool) (m k : Nat) : signed s m * signed t k = signed (s ^^ t) (m * k) := by
  cases s <;> cases t <;> simp [signed]

theorem signed_natAbs (z : Int) : signed (decide (z < 0)) z.natAbs = z := by
  by_cases h : z < 0
  · rw [decide_eq_true h, signed, if_pos rfl]
    omega
  · rw [decide_eq_false h, signed, if_neg Bool.false_ne_true]
    omega

theorem natAbs_signed (s : Bool) (m : Nat) : (signed s m).natAbs = m := by
  cases s <;> simp [signed]

theorem unitsInOne_ne_zero : (unitsInOne : Int) ≠ 0 := Int.natCast_ne_zero.mpr (Nat.ne_of_gt unitsInOne_pos)

theorem value?_eq_some_iff :
    x.value? = some a ↔ ∃ s u held, x = finite s u held ∧ (signed s u : ℚ) = a * unitsInOne := by
  have hUnits : (unitsInOne : ℚ) ≠ 0 := by exact_mod_cast Nat.ne_of_gt unitsInOne_pos
  constructor
  · intro h
    cases x with
    | nan => cases h
    | infinite s => cases h
    | finite s u held =>
      obtain rfl := Option.some.inj h
      exact ⟨s, u, held, rfl, (div_mul_cancel₀ _ hUnits).symm⟩
  · rintro ⟨s, u, held, rfl, hValue⟩
    rw [value?, hValue, mul_div_cancel_right₀ _ hUnits]

theorem exists_signed_of_value? (h : x.value? = some (z : ℚ)) :
    ∃ s u held, x = finite s u held ∧ signed s u = z * unitsInOne := by
  obtain ⟨s, u, held, rfl, hValue⟩ := value?_eq_some_iff.mp h
  exact ⟨s, u, held, rfl, by exact_mod_cast hValue⟩

theorem eq_of_signed {s : Bool} {u : Nat} (h : signed s u = z * unitsInOne) :
    u = z.natAbs * unitsInOne ∧ signed s z.natAbs = z := by
  have hMagnitude : u = z.natAbs * unitsInOne := by
    rw [← natAbs_signed s u, h, Int.natAbs_mul, Int.natAbs_natCast]
  rw [hMagnitude, signed_mul_natCast] at h
  exact ⟨hMagnitude, Int.eq_of_mul_eq_mul_right unitsInOne_ne_zero h⟩

theorem toInt?_of_signed {s : Bool} {u : Nat} {held : Format.binary64.Holds u}
    (h : signed s u = z * unitsInOne) : (finite s u held).toInt? = some z := by
  obtain ⟨rfl, hSigned⟩ := eq_of_signed h
  rw [toInt?_finite, hSigned]

theorem value?_intCast_iff : x.value? = some (z : ℚ) ↔ x.toInt? = some z := by
  constructor
  · intro h
    obtain ⟨s, u, held, rfl, hSigned⟩ := exists_signed_of_value? h
    exact toInt?_of_signed hSigned
  · intro h
    obtain ⟨s, u, held, rfl, hSigned⟩ := exists_signed_of_toInt? h
    exact value?_eq_some_iff.mpr ⟨s, u, held, rfl, by exact_mod_cast hSigned⟩

theorem index?_eq_some_iff_toInt? : x.index? = some n ↔ x.toInt? = some (n : Int) := by
  refine ⟨toInt?_of_index?, fun h => ?_⟩
  rw [index?_of_toInt? h, if_pos (Int.natCast_nonneg n), Int.toNat_natCast]

theorem value?_natCast_iff : x.value? = some (n : ℚ) ↔ x.index? = some n := by
  rw [index?_eq_some_iff_toInt?, ← value?_intCast_iff, Int.cast_natCast]

theorem value?_of_isZero (h : x.isZero = true) : x.value? = some 0 := by
  cases x with
  | nan => cases h
  | infinite s => cases h
  | finite s u held =>
    obtain rfl : u = 0 := eq_of_beq h
    cases s <;> simp [value?, signed]

theorem isZero_iff_value? : x.isZero = true ↔ x.value? = some 0 := by
  refine ⟨value?_of_isZero, fun h => ?_⟩
  exact (isZero_iff (value?_natCast_iff.mp (h.trans (congrArg some Nat.cast_zero.symm)))).mpr rfl

theorem le_iff_value? (hx : x.value? = some a) (hy : y.value? = some b) : x.le y = true ↔ a ≤ b := by
  obtain ⟨s, u, heldX, rfl, hU⟩ := value?_eq_some_iff.mp hx
  obtain ⟨t, v, heldY, rfl, hV⟩ := value?_eq_some_iff.mp hy
  have hUnits : (0 : ℚ) < unitsInOne := by exact_mod_cast unitsInOne_pos
  rw [← mul_le_mul_iff_of_pos_right hUnits, ← hU, ← hV, Rat.intCast_le_intCast]
  exact decide_eq_true_iff

theorem toInt?_ofUnits (s : Bool) {m : Nat} (h : m ≤ exactLimit) :
    (ofUnits s (m * unitsInOne)).toInt? = some (signed s m) := by
  rw [ofUnits_of_holds s (holds_natural h), toInt?_finite]

theorem whole_of_toInt? (h : x.toInt? = some z) : x.whole = z := by
  obtain ⟨s, u, held, rfl, hUnits⟩ := exists_signed_of_toInt? h
  obtain ⟨rfl, hSigned⟩ := eq_of_signed hUnits
  rw [whole, Nat.mul_div_cancel _ unitsInOne_pos]
  exact hSigned

theorem toInt?_ofInt (h : z.natAbs ≤ exactLimit) : (ofInt z).toInt? = some z := by
  rw [ofInt, toInt?_ofUnits _ h, signed_natAbs]

/-- A zero that comes of an addition has the sign that both operands share; nothing else is rounded. -/
theorem add_eq_ofInt (hx : x.value? = some a) (hy : y.value? = some b) (hSum : a + b = z) :
    x + y = if z = 0 then ofUnits (x.isNegative && y.isNegative) 0 else ofInt z := by
  obtain ⟨s, u, heldX, rfl, hU⟩ := value?_eq_some_iff.mp hx
  obtain ⟨t, v, heldY, rfl, hV⟩ := value?_eq_some_iff.mp hy
  have hUnits : signed s u + signed t v = z * unitsInOne := by
    have hExact : (signed s u : ℚ) + signed t v = z * unitsInOne := by rw [hU, hV, ← add_mul, hSum]
    exact_mod_cast hExact
  have hZero : z * unitsInOne = 0 ↔ z = 0 := mul_eq_zero_iff_right unitsInOne_ne_zero
  have hSign : z * unitsInOne < 0 ↔ z < 0 := by
    have hPos : (0 : Int) < unitsInOne := Int.natCast_pos.mpr unitsInOne_pos
    exact ⟨fun h => neg_of_mul_neg_left h hPos.le, fun h => Int.mul_neg_of_neg_of_pos h hPos⟩
  rw [add_finite, hUnits, ofInt, Int.natAbs_mul, Int.natAbs_natCast, decide_eq_decide.mpr hSign]
  simp only [hZero]
  rfl

theorem toInt?_add (hx : x.value? = some a) (hy : y.value? = some b) (hSum : a + b = z)
    (hz : z.natAbs ≤ exactLimit) : (x + y).toInt? = some z := by
  rw [add_eq_ofInt hx hy hSum]
  split
  · rename_i hZero
    rw [hZero]
    exact toInt?_of_index? (index?_ofUnits_zero _)
  · exact toInt?_ofInt hz

theorem ofInt_add {c d : Int} (hc : c.natAbs ≤ exactLimit) (hy : y.toInt? = some d) : ofInt c + y = ofInt (c + d) := by
  have hSum : (c : ℚ) + d = ((c + d : Int) : ℚ) := (Int.cast_add c d).symm
  rw [add_eq_ofInt (value?_intCast_iff.mpr (toInt?_ofInt hc)) (value?_intCast_iff.mpr hy) hSum]
  split
  · rename_i hZero
    have hSign : ((ofInt c).isNegative && y.isNegative) = false := by
      obtain ⟨t, v, held, rfl, hV⟩ := exists_signed_of_toInt? hy
      rw [ofInt, ofUnits_of_holds _ (holds_natural hc)]
      simp only [isNegative, Bool.and_eq_false_iff, decide_eq_false_iff_not]
      cases t with
      | false => exact .inr rfl
      | true =>
        have hD : d ≤ 0 := by
          refine nonpos_of_mul_nonpos_left ?_ (Int.natCast_pos.mpr unitsInOne_pos)
          rw [← hV, signed, if_pos rfl]
          omega
        exact .inl (by omega)
    rw [hSign, hZero, ofInt, Int.natAbs_zero, Nat.zero_mul]
    rfl
  · rfl

theorem toInt?_mul (hx : x.value? = some a) (hy : y.value? = some b) (hProduct : a * b = z)
    (hz : z.natAbs ≤ exactLimit) : (x * y).toInt? = some z := by
  obtain ⟨s, u, heldX, rfl, hU⟩ := value?_eq_some_iff.mp hx
  obtain ⟨t, v, heldY, rfl, hV⟩ := value?_eq_some_iff.mp hy
  have hUnits : signed (s ^^ t) (u * v) = z * unitsInOne * unitsInOne := by
    have hExact : (signed s u : ℚ) * signed t v = z * unitsInOne * unitsInOne := by
      rw [hU, hV, mul_mul_mul_comm, hProduct, mul_assoc]
    rw [← signed_mul_signed]
    exact_mod_cast hExact
  have hMagnitude : u * v = z.natAbs * unitsInOne * unitsInOne := by
    rw [← natAbs_signed (s ^^ t) (u * v), hUnits, Int.natAbs_mul, Int.natAbs_mul, Int.natAbs_natCast]
  rw [hMagnitude, signed_mul_natCast] at hUnits
  rw [mul_finite, hMagnitude, ofRatio_of_holds _ (holds_natural hz) unitsInOne_pos]
  exact toInt?_of_signed (Int.eq_of_mul_eq_mul_right unitsInOne_ne_zero hUnits)

end CubeSlice.Number
