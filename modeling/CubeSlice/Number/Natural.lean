import CubeSlice.Number.Arithmetic
import CubeSlice.Number.Rounding

/-!
# Natural numbers among the numbers

`x.index? = some n` says that the number `x` is the natural number `n`; zero may carry a sign. Up to
`2 ^ 53` sums and products of natural numbers are exact. Beyond that they may be rounded, but stay at
or above `2 ^ 53`: `Keeps x n` is what rounded arithmetic still knows of `n`, and it is enough to
compare with a safe integer.
-/

namespace CubeSlice.Number

def exactLimit : Nat := maxSafe + 1

theorem maxSafe_eq : maxSafe = 9007199254740991 := rfl

theorem le_exactLimit {n : Nat} (h : n ≤ maxSafe) : n ≤ exactLimit := Nat.le_succ_of_le h

attribute [local irreducible] unitsInOne twoTo

theorem exactLimit_eq_twoTo : exactLimit = twoTo 53 := by decide +kernel

theorem onGrid_natural {n : Nat} (h : n ≤ exactLimit) : Format.binary64.OnGrid (n * unitsInOne) := by
  have hUnits : unitsInOne = twoTo unitExponent := by unfold unitsInOne; rfl
  rcases Nat.lt_or_eq_of_le h with hLt | rfl
  · have hPrecision : n < twoTo Format.binary64.precision := by
      rw [exactLimit_eq_twoTo] at hLt
      exact hLt
    exact ⟨n, unitExponent, hPrecision, Nat.zero_le _, by rw [hUnits]⟩
  · exact ⟨1, 53 + unitExponent, one_lt_twoTo (by decide), Nat.zero_le _, by
      rw [hUnits, exactLimit_eq_twoTo, twoTo_add, Nat.one_mul]⟩

theorem exactLimit_lt_ceiling : exactLimit * unitsInOne < twoTo Format.binary64.ceiling := by
  decide +kernel

theorem holds_natural {n : Nat} (h : n ≤ exactLimit) : Format.binary64.Holds (n * unitsInOne) :=
  ⟨Nat.lt_of_le_of_lt (Nat.mul_le_mul_right _ h) exactLimit_lt_ceiling, onGrid_natural h⟩

theorem toInt?_finite (s : Bool) (n : Nat) (held : Format.binary64.Holds (n * unitsInOne)) :
    (finite s (n * unitsInOne) held).toInt? = some (signed s n) := by
  simp [toInt?, signed, Nat.mul_div_cancel n unitsInOne_pos]

theorem index?_of_toInt? {x : Number} {i : Int} (h : x.toInt? = some i) :
    x.index? = if 0 ≤ i then some i.toNat else none := by
  simp only [index?, h]

theorem index?_eq_some_iff {x : Number} {n : Nat} :
    x.index? = some n ↔ ∃ s h, x = finite s (n * unitsInOne) h ∧ (s = true → n = 0) := by
  constructor
  · intro h
    cases x with
    | nan => cases h
    | infinite s => cases h
    | finite s u held =>
      by_cases hWhole : unitsInOne ∣ u
      · obtain ⟨m, hUnits⟩ := hWhole
        rw [Nat.mul_comm] at hUnits
        subst hUnits
        rw [index?_of_toInt? (toInt?_finite s m held)] at h
        cases s with
        | false =>
          obtain rfl : m = n := by simpa [signed] using h
          exact ⟨false, held, rfl, by simp⟩
        | true =>
          have hZero : m = 0 ∧ n = 0 := by
            simp only [signed, if_true] at h
            split at h
            · have hValue := Option.some.inj h
              omega
            · cases h
          obtain ⟨rfl, rfl⟩ := hZero
          exact ⟨true, held, rfl, fun _ => rfl⟩
      · have hRest : u % unitsInOne ≠ 0 := fun hZero => hWhole (Nat.dvd_of_mod_eq_zero hZero)
        simp [index?, toInt?, hRest] at h
  · rintro ⟨s, held, rfl, hSign⟩
    rw [index?_of_toInt? (toInt?_finite s n held)]
    cases s with
    | false => simp [signed]
    | true =>
      rw [hSign rfl]
      simp [signed]

theorem index?_ofUnits {s : Bool} {n : Nat} (h : n ≤ exactLimit) (hSign : s = true → n = 0) :
    (ofUnits s (n * unitsInOne)).index? = some n := by
  rw [ofUnits_of_holds s (holds_natural h)]
  exact index?_eq_some_iff.mpr ⟨s, _, rfl, hSign⟩

theorem index?_ofNat {n : Nat} (h : n ≤ exactLimit) : (ofNat n).index? = some n :=
  index?_ofUnits h (by simp)

theorem index?_zero : zero.index? = some 0 := by decide +kernel

theorem toInt?_of_index? {x : Number} {n : Nat} (h : x.index? = some n) : x.toInt? = some (n : Int) := by
  unfold index? at h
  split at h
  · rename_i i hInt
    split at h
    · have hValue := Option.some.inj h
      rw [hInt]
      congr 1
      omega
    · cases h
  · cases h

theorem toNat_of_index? {x : Number} {n : Nat} (h : x.index? = some n) : x.toNat = n := by
  simp [toNat, toInt?_of_index? h]

theorem naturalsBelow_of_index? {x : Number} {n : Nat} (h : x.index? = some n) :
    x.naturalsBelow = n := by
  simp [naturalsBelow, toInt?_of_index? h]

theorem isSafeInteger_iff {x : Number} {n : Nat} (h : x.index? = some n) :
    x.isSafeInteger = true ↔ n ≤ maxSafe := by
  simp [isSafeInteger, toInt?_of_index? h]

theorem signed_of_sign {s : Bool} {n : Nat} (h : s = true → n = 0) : signed s n = n := by
  cases s with
  | false => rfl
  | true =>
    rw [h rfl]
    rfl

theorem exists_signed_of_index? {x : Number} {n : Nat} (h : x.index? = some n) :
    ∃ s u held, x = finite s u held ∧ u = n * unitsInOne ∧ signed s u = ((n * unitsInOne : Nat) : Int) ∧
      (s = true → n = 0) := by
  obtain ⟨s, held, rfl, hSign⟩ := index?_eq_some_iff.mp h
  exact ⟨s, _, held, rfl, rfl, signed_of_sign fun hs => by rw [hSign hs, Nat.zero_mul], hSign⟩

theorem whole_of_index? {x : Number} {n : Nat} (h : x.index? = some n) : x.whole = n := by
  obtain ⟨s, u, held, rfl, hUnits, -, hSign⟩ := exists_signed_of_index? h
  have hWhole : u / unitsInOne = n := by rw [hUnits, Nat.mul_div_cancel n unitsInOne_pos]
  have hSigned : (finite s u held).whole = signed s (u / unitsInOne) := rfl
  rw [hSigned, hWhole, signed_of_sign hSign]

theorem isZero_iff {x : Number} {n : Nat} (h : x.index? = some n) : x.isZero = true ↔ n = 0 := by
  obtain ⟨s, u, held, rfl, hUnits, -, -⟩ := exists_signed_of_index? h
  have hPos := unitsInOne_pos
  simp only [isZero, beq_iff_eq, hUnits, Nat.mul_eq_zero]
  omega

theorem lt_iff {x y : Number} {a b : Nat} (hx : x.index? = some a) (hy : y.index? = some b) :
    x.lt y = true ↔ a < b := by
  obtain ⟨s, u, heldX, rfl, -, hU, -⟩ := exists_signed_of_index? hx
  obtain ⟨t, v, heldY, rfl, -, hV, -⟩ := exists_signed_of_index? hy
  simp only [lt, hU, hV, decide_eq_true_eq, Int.ofNat_lt]
  exact Nat.mul_lt_mul_right unitsInOne_pos

theorem le_iff {x y : Number} {a b : Nat} (hx : x.index? = some a) (hy : y.index? = some b) :
    x.le y = true ↔ a ≤ b := by
  obtain ⟨s, u, heldX, rfl, -, hU, -⟩ := exists_signed_of_index? hx
  obtain ⟨t, v, heldY, rfl, -, hV, -⟩ := exists_signed_of_index? hy
  simp only [le, hU, hV, decide_eq_true_eq, Int.ofNat_le]
  exact Nat.mul_le_mul_right_iff unitsInOne_pos

theorem exists_signed_of_toInt? {x : Number} {i : Int} (h : x.toInt? = some i) :
    ∃ s u held, x = finite s u held ∧ signed s u = i * unitsInOne := by
  cases x with
  | nan => cases h
  | infinite s => cases h
  | finite s u held =>
    refine ⟨s, u, held, rfl, ?_⟩
    by_cases hWhole : u % unitsInOne = 0
    · have hUnits : u = u / unitsInOne * unitsInOne :=
        (Nat.div_mul_cancel (Nat.dvd_of_mod_eq_zero hWhole)).symm
      simp only [toInt?, if_pos hWhole] at h
      obtain rfl := Option.some.inj h
      conv => lhs; rw [hUnits]
      cases s with
      | false => simp only [signed, Int.natCast_mul, Bool.false_eq_true, if_false]
      | true => simp only [signed, Int.natCast_mul, Int.neg_mul, if_true]
    · simp [toInt?, hWhole] at h

theorem nonneg_of_not_lt_zero {x : Number} {i : Int} (hInt : x.toInt? = some i)
    (hSign : x.lt zero = false) : 0 ≤ i := by
  obtain ⟨s, u, held, rfl, hSigned⟩ := exists_signed_of_toInt? hInt
  have hUnits : 0 ≤ i * (unitsInOne : Int) := by
    have hZero : signed false 0 = 0 := rfl
    simpa [lt, zero, hSigned, hZero] using hSign
  exact Int.nonneg_of_mul_nonneg_left hUnits (by have := unitsInOne_pos; omega)

theorem safe_not_negative_iff {x : Number} :
    (x.isSafeInteger = true ∧ x.lt zero = false) ↔ ∃ n, x.index? = some n ∧ n ≤ maxSafe := by
  constructor
  · rintro ⟨hSafe, hSign⟩
    cases hInt : x.toInt? with
    | none => simp [isSafeInteger, hInt] at hSafe
    | some i =>
      have hBound : i.natAbs ≤ maxSafe := by simpa [isSafeInteger, hInt] using hSafe
      have hNonneg := nonneg_of_not_lt_zero hInt hSign
      refine ⟨i.toNat, ?_, by omega⟩
      rw [index?_of_toInt? hInt, if_pos hNonneg]
  · rintro ⟨n, hIndex, hBound⟩
    refine ⟨(isSafeInteger_iff hIndex).mpr hBound, ?_⟩
    have hLt := lt_iff hIndex index?_zero
    cases hValue : x.lt zero with
    | false => rfl
    | true => exact absurd (hLt.mp hValue) (Nat.not_lt_zero n)

theorem eq_ofNat_of_index? {x : Number} {n : Nat} (h : x.index? = some n) (hPos : 0 < n)
    (hLimit : n ≤ exactLimit) : x = ofNat n := by
  obtain ⟨s, held, rfl, hSign⟩ := index?_eq_some_iff.mp h
  have hPlus : s = false := by
    cases s with
    | false => rfl
    | true => exact absurd (hSign rfl) (Nat.ne_of_gt hPos)
  rw [hPlus, ofNat, ofUnits_of_holds false (holds_natural hLimit)]

theorem add_finite (a b : Bool) {m n : Nat} (hm : Format.binary64.Holds m)
    (hn : Format.binary64.Holds n) :
    finite a m hm + finite b n hn =
      if signed a m + signed b n = 0 then ofUnits (a && b) 0
      else ofUnits (signed a m + signed b n < 0) (signed a m + signed b n).natAbs := rfl

theorem index?_ofUnits_zero (s : Bool) : (ofUnits s 0).index? = some 0 := by
  cases s <;> decide +kernel

theorem add_of_signed {a b : Bool} {m n sum : Nat} (hm : Format.binary64.Holds m)
    (hn : Format.binary64.Holds n) (h : signed a m + signed b n = (sum : Int)) :
    finite a m hm + finite b n hn = if sum = 0 then ofUnits (a && b) 0 else ofUnits false sum := by
  have hSign : ¬ (sum : Int) < 0 := by omega
  rw [add_finite, h, Int.natAbs_natCast]
  simp only [hSign, decide_false, Int.natCast_eq_zero]

theorem index?_sum {a b : Bool} {m n c : Nat} (hm : Format.binary64.Holds m)
    (hn : Format.binary64.Holds n) (hLimit : c ≤ exactLimit)
    (h : signed a m + signed b n = ((c * unitsInOne : Nat) : Int)) :
    (finite a m hm + finite b n hn).index? = some c := by
  rw [add_of_signed hm hn h]
  split
  · rename_i hZero
    have hNone : c = 0 := (Nat.mul_eq_zero.mp hZero).resolve_right (Nat.ne_of_gt unitsInOne_pos)
    rw [hNone]
    exact index?_ofUnits_zero _
  · exact index?_ofUnits hLimit (by simp)

theorem index?_add {x y : Number} {a b : Nat} (hx : x.index? = some a) (hy : y.index? = some b)
    (h : a + b ≤ exactLimit) : (x + y).index? = some (a + b) := by
  obtain ⟨s, u, heldX, rfl, -, hU, -⟩ := exists_signed_of_index? hx
  obtain ⟨t, v, heldY, rfl, -, hV, -⟩ := exists_signed_of_index? hy
  refine index?_sum heldX heldY h ?_
  rw [hU, hV, Nat.add_mul, Int.natCast_add]

theorem signed_not (s : Bool) (n : Nat) : signed (!s) n = -signed s n := by
  cases s <;> simp [signed]

theorem sub_finite (a b : Bool) {m n : Nat} (hm : Format.binary64.Holds m)
    (hn : Format.binary64.Holds n) :
    finite a m hm - finite b n hn = finite a m hm + finite (!b) n hn := rfl

theorem index?_sub {x y : Number} {a b : Nat} (hx : x.index? = some a) (hy : y.index? = some b)
    (hLe : b ≤ a) (h : a ≤ exactLimit) : (x - y).index? = some (a - b) := by
  obtain ⟨s, u, heldX, rfl, -, hU, -⟩ := exists_signed_of_index? hx
  obtain ⟨t, v, heldY, rfl, -, hV, -⟩ := exists_signed_of_index? hy
  have hUnits : b * unitsInOne ≤ a * unitsInOne := Nat.mul_le_mul_right _ hLe
  rw [sub_finite]
  refine index?_sum heldX heldY (by omega) ?_
  rw [signed_not, hU, hV, Nat.sub_mul]
  omega

theorem sub_lt_zero {x y : Number} {a b : Nat} (hx : x.index? = some a) (hy : y.index? = some b)
    (hLt : a < b) (hb : b ≤ exactLimit) : (x - y).lt zero = true := by
  obtain ⟨s, u, heldX, rfl, -, hU, -⟩ := exists_signed_of_index? hx
  obtain ⟨t, v, heldY, rfl, -, hV, -⟩ := exists_signed_of_index? hy
  have hUnits : a * unitsInOne < b * unitsInOne := Nat.mul_lt_mul_of_pos_right hLt unitsInOne_pos
  have hSum : signed s u + signed (!t) v = -(((b - a) * unitsInOne : Nat) : Int) := by
    rw [signed_not, hU, hV, Nat.sub_mul]
    omega
  have hPos : 0 < (b - a) * unitsInOne := by
    rw [Nat.sub_mul]
    omega
  have hNegative : -(((b - a) * unitsInOne : Nat) : Int) < 0 := by omega
  rw [sub_finite, add_finite, hSum, if_neg (Int.ne_of_lt hNegative), Int.natAbs_neg,
    Int.natAbs_natCast, decide_eq_true hNegative, ofUnits_of_holds true (holds_natural (by omega))]
  have hSigned (n : Nat) : signed true n = -(n : Int) := rfl
  have hZero : signed false 0 = 0 := rfl
  simp only [lt, zero, decide_eq_true_eq, hSigned, hZero]
  exact hNegative

def Reaches (units : Nat) : Number → Prop
  | nan => False
  | infinite s => s = false
  | finite s n _ => s = false ∧ units ≤ n

/-- What rounded arithmetic keeps of a natural number: all of it up to `2 ^ 53`, and beyond only
that it is not below. -/
def Keeps (x : Number) (n : Nat) : Prop :=
  (n ≤ exactLimit → x.index? = some n) ∧
    (exactLimit < n → x.Reaches (exactLimit * unitsInOne))

theorem keeps_of_index? {x : Number} {n : Nat} (h : x.index? = some n) (hLimit : n ≤ exactLimit) :
    x.Keeps n := ⟨fun _ => h, fun hLarge => absurd hLarge (Nat.not_lt.mpr hLimit)⟩

theorem reaches_ofRatio {num den units : Nat} (hGrid : Format.binary64.OnGrid units) (hDen : 0 < den)
    (h : units * den ≤ num) : (ofRatio false num den).Reaches units := by
  unfold ofRatio
  split
  · exact ⟨rfl, Format.le_round_of_onGrid hGrid hDen h⟩
  · rfl

theorem reaches_add {x y : Number} {units b : Nat} (hGrid : Format.binary64.OnGrid units)
    (hPos : 0 < units) (hx : x.Reaches units) (hy : y.index? = some b) : (x + y).Reaches units := by
  obtain ⟨t, v, heldY, rfl, hV, -, hSign⟩ := exists_signed_of_index? hy
  cases x with
  | nan => exact hx.elim
  | infinite s => exact hx
  | finite s u heldX =>
    obtain ⟨rfl, hLe⟩ := hx
    have hSigned : signed t v = (v : Int) := signed_of_sign fun ht => by
      rw [hV, hSign ht, Nat.zero_mul]
    have hSum : signed false u + signed t v = ((u + v : Nat) : Int) := by
      rw [hSigned]
      rfl
    rw [add_of_signed heldX heldY hSum, if_neg (by omega)]
    exact reaches_ofRatio hGrid Nat.one_pos (by omega)

theorem add_comm (x y : Number) : x + y = y + x := by
  cases x <;> cases y <;> try rfl
  · rename_i a b
    show add (infinite a) (infinite b) = add (infinite b) (infinite a)
    by_cases h : a = b
    · rw [h]
    · simp only [add, if_neg h, if_neg (Ne.symm h)]
  · rename_i a m hm b n hn
    rw [add_finite, add_finite, Int.add_comm, Bool.and_comm]

theorem keeps_add {x y : Number} {a b : Nat} (hx : x.Keeps a) (hy : y.index? = some b) :
    (x + y).Keeps (a + b) := by
  have hGrid := onGrid_natural (Nat.le_refl exactLimit)
  have hPos : 0 < exactLimit * unitsInOne := Nat.mul_pos (by decide) unitsInOne_pos
  rcases Nat.lt_or_ge exactLimit a with hLarge | hSmall
  · have hReach := reaches_add hGrid hPos (hx.2 hLarge) hy
    exact ⟨fun h => absurd h (by omega), fun _ => hReach⟩
  · have hIndex := hx.1 hSmall
    refine ⟨index?_add hIndex hy, fun hLarge => ?_⟩
    obtain ⟨s, u, heldX, rfl, -, hU, -⟩ := exists_signed_of_index? hIndex
    obtain ⟨t, v, heldY, rfl, -, hV, -⟩ := exists_signed_of_index? hy
    have hSum : signed s u + signed t v = (((a + b) * unitsInOne : Nat) : Int) := by
      rw [hU, hV, Nat.add_mul, Int.natCast_add]
    have hLe : exactLimit * unitsInOne ≤ (a + b) * unitsInOne :=
      Nat.mul_le_mul_right _ (Nat.le_of_lt hLarge)
    rw [add_of_signed heldX heldY hSum, if_neg (by omega)]
    exact reaches_ofRatio hGrid Nat.one_pos (by omega)

theorem mul_finite (a b : Bool) {m n : Nat} (hm : Format.binary64.Holds m)
    (hn : Format.binary64.Holds n) :
    finite a m hm * finite b n hn = ofRatio (a ^^ b) (m * n) unitsInOne := rfl

theorem keeps_mul {x y : Number} {a b : Nat} (hx : x.index? = some a) (hy : y.index? = some b) :
    (x * y).Keeps (a * b) := by
  obtain ⟨s, heldX, rfl, hSignX⟩ := index?_eq_some_iff.mp hx
  obtain ⟨t, heldY, rfl, hSignY⟩ := index?_eq_some_iff.mp hy
  have hUnits : a * unitsInOne * (b * unitsInOne) = a * b * unitsInOne * unitsInOne := by
    rw [Nat.mul_mul_mul_comm, Nat.mul_assoc (a * b)]
  rw [mul_finite, hUnits]
  constructor
  · intro hLimit
    rw [ofRatio_of_holds _ (holds_natural hLimit) unitsInOne_pos]
    refine index?_eq_some_iff.mpr ⟨_, _, rfl, fun hSign => ?_⟩
    cases s with
    | true => rw [hSignX rfl, Nat.zero_mul]
    | false =>
      have ht : t = true := by simpa using hSign
      rw [hSignY ht, Nat.mul_zero]
  · intro hLarge
    have hs : s = false := by
      cases s with
      | false => rfl
      | true =>
        rw [hSignX rfl, Nat.zero_mul] at hLarge
        exact absurd hLarge (Nat.not_lt_zero _)
    have ht : t = false := by
      cases t with
      | false => rfl
      | true =>
        rw [hSignY rfl, Nat.mul_zero] at hLarge
        exact absurd hLarge (Nat.not_lt_zero _)
    subst hs ht
    exact reaches_ofRatio (onGrid_natural (Nat.le_refl _)) unitsInOne_pos
      (Nat.mul_le_mul_right _ (Nat.mul_le_mul_right _ (Nat.le_of_lt hLarge)))

theorem index?_mul {x y : Number} {a b : Nat} (hx : x.index? = some a) (hy : y.index? = some b)
    (h : a * b ≤ exactLimit) : (x * y).index? = some (a * b) := (keeps_mul hx hy).1 h

theorem lt_of_reaches {x y : Number} {b : Nat} (hx : x.Reaches (exactLimit * unitsInOne))
    (hy : y.index? = some b) (hb : b ≤ maxSafe) : y.lt x = true ∧ x.le y = false := by
  obtain ⟨t, v, heldY, rfl, hV, hSigned, -⟩ := exists_signed_of_index? hy
  have hBelow : b * unitsInOne < exactLimit * unitsInOne :=
    Nat.mul_lt_mul_of_pos_right (Nat.lt_succ_of_le hb) unitsInOne_pos
  cases x with
  | nan => exact hx.elim
  | infinite s =>
    obtain rfl : s = false := hx
    exact ⟨rfl, rfl⟩
  | finite s u heldX =>
    obtain ⟨rfl, hLe⟩ := hx
    have hValue : signed false u = (u : Int) := rfl
    simp only [lt, le, hSigned, hValue, decide_eq_true_eq, decide_eq_false_iff_not]
    omega

theorem le_iff_of_keeps {x y : Number} {a b : Nat} (hx : x.Keeps a) (hy : y.index? = some b)
    (hb : b ≤ maxSafe) : x.le y = true ↔ a ≤ b := by
  have hLimit := le_exactLimit hb
  rcases Nat.lt_or_ge exactLimit a with hLarge | hSmall
  · rw [(lt_of_reaches (hx.2 hLarge) hy hb).2]
    exact ⟨fun h => absurd h (by decide), fun h => absurd h (by omega)⟩
  · exact le_iff (hx.1 hSmall) hy

theorem lt_iff_of_keeps {x y : Number} {a b : Nat} (hx : x.Keeps a) (hy : y.index? = some b)
    (hb : b ≤ maxSafe) : y.lt x = true ↔ b < a := by
  have hLimit := le_exactLimit hb
  rcases Nat.lt_or_ge exactLimit a with hLarge | hSmall
  · rw [(lt_of_reaches (hx.2 hLarge) hy hb).1]
    exact ⟨fun _ => by omega, fun _ => rfl⟩
  · exact lt_iff hy (hx.1 hSmall)

theorem isSafeInteger_of_exactLimit_le (s : Bool) {u : Nat} (held : Format.binary64.Holds u)
    (h : exactLimit * unitsInOne ≤ u) : (finite s u held).isSafeInteger = false := by
  have hWhole : exactLimit ≤ u / unitsInOne := (Nat.le_div_iff_mul_le unitsInOne_pos).mpr h
  have hLimit : exactLimit = maxSafe + 1 := rfl
  by_cases hInt : u % unitsInOne = 0
  · cases s <;> simp [isSafeInteger, toInt?, hInt] <;> omega
  · simp [isSafeInteger, toInt?, hInt]

theorem isSafeInteger_iff_of_keeps {x : Number} {a : Nat} (hx : x.Keeps a) :
    x.isSafeInteger = true ↔ a ≤ maxSafe := by
  rcases Nat.lt_or_ge exactLimit a with hLarge | hSmall
  · have hNone : ¬ a ≤ maxSafe := by
      have : exactLimit = maxSafe + 1 := rfl
      omega
    refine ⟨fun hSafe => ?_, fun h => absurd h hNone⟩
    have hReach := hx.2 hLarge
    cases x with
    | nan => exact hReach.elim
    | infinite s => exact absurd hSafe Bool.false_ne_true
    | finite s u held => exact absurd hSafe (by simp [isSafeInteger_of_exactLimit_le s held hReach.2])
  · exact isSafeInteger_iff (hx.1 hSmall)

theorem two_mul_unitsInOne : 2 * unitsInOne = twoTo (unitExponent + 1) := by
  unfold unitsInOne
  decide +kernel

/-- The spacing at a quotient of safe integers is so small that `b` steps stay below two. -/
theorem mul_spacing_lt {a b : Nat} (ha : a ≤ maxSafe) (hb : b ≤ maxSafe) (hPos : 0 < b) :
    b * twoTo (Format.binary64.spacing (a * unitsInOne / b)) < 2 * unitsInOne := by
  generalize hq : a * unitsInOne / b = q
  have hScaled : b * q ≤ a * unitsInOne := hq ▸ Nat.mul_div_le _ b
  have hBelow : a * unitsInOne < twoTo 53 * unitsInOne :=
    Nat.mul_lt_mul_of_pos_right (exactLimit_eq_twoTo ▸ Nat.lt_succ_of_le ha) unitsInOne_pos
  rcases Nat.lt_or_ge q.log2 53 with hSmall | hLarge
  · have hSpacing : Format.binary64.spacing q = 0 := by
      simp only [Format.spacing, Format.binary64]
      omega
    have hUnits : twoTo 53 ≤ unitsInOne := by
      unfold unitsInOne
      exact twoTo_le_twoTo (by decide)
    have hOne : twoTo 0 = 1 := by decide +kernel
    rw [hSpacing, hOne]
    have : exactLimit = maxSafe + 1 := rfl
    rw [← exactLimit_eq_twoTo] at hUnits
    omega
  · have hNonzero : q ≠ 0 := by
      rintro rfl
      exact absurd hLarge (by decide)
    have hLog : q.log2 = Format.binary64.spacing q + 52 := by
      simp only [Format.spacing, Format.binary64]
      omega
    have hPower : twoTo (Format.binary64.spacing q) * twoTo 52 ≤ q := by
      rw [← twoTo_add, ← hLog]
      unfold twoTo
      exact Nat.log2_self_le hNonzero
    have hTop : twoTo 53 = 2 * twoTo 52 := by decide +kernel
    refine Nat.lt_of_mul_lt_mul_right (a := twoTo 52) ?_
    calc
      b * twoTo (Format.binary64.spacing q) * twoTo 52
          = b * (twoTo (Format.binary64.spacing q) * twoTo 52) := Nat.mul_assoc _ _ _
      _ ≤ b * q := Nat.mul_le_mul_left b hPower
      _ ≤ a * unitsInOne := hScaled
      _ < twoTo 53 * unitsInOne := hBelow
      _ = 2 * unitsInOne * twoTo 52 := by rw [hTop, Nat.mul_right_comm]

theorem spacing_dvd_unitsInOne {a b : Nat} (ha : a ≤ maxSafe) (hb : b ≤ maxSafe) (hPos : 0 < b) :
    twoTo (Format.binary64.spacing (a * unitsInOne / b)) ∣ unitsInOne := by
  have hLt := mul_spacing_lt ha hb hPos
  have hStep : twoTo (Format.binary64.spacing (a * unitsInOne / b)) < twoTo (unitExponent + 1) := by
    rw [← two_mul_unitsInOne]
    exact Nat.lt_of_le_of_lt (Nat.le_mul_of_pos_left _ hPos) hLt
  have hExponent : Format.binary64.spacing (a * unitsInOne / b) ≤ unitExponent := by
    rcases Nat.lt_or_ge unitExponent (Format.binary64.spacing (a * unitsInOne / b)) with h | h
    · exact absurd hStep (Nat.not_lt.mpr (twoTo_le_twoTo h))
    · exact h
  unfold unitsInOne at *
  exact twoTo_dvd_twoTo hExponent

/-- A quotient of safe integers is rounded neither below its whole part nor up to the next. -/
theorem round_quotient {a b : Nat} (ha : a ≤ maxSafe) (hb : b ≤ maxSafe) (hPos : 0 < b) :
    a / b * unitsInOne ≤ Format.binary64.round (a * unitsInOne * unitsInOne) (b * unitsInOne) ∧
      Format.binary64.round (a * unitsInOne * unitsInOne) (b * unitsInOne) <
        (a / b + 1) * unitsInOne := by
  have hUnits := unitsInOne_pos
  have hDen : 0 < b * unitsInOne := Nat.mul_pos hPos hUnits
  have hDiv : a / b ≤ a := Nat.div_le_self a b
  have hQuotient : a * unitsInOne * unitsInOne / (b * unitsInOne) = a * unitsInOne / b :=
    Nat.mul_div_mul_right _ _ hUnits
  constructor
  · refine Format.le_round_of_onGrid (onGrid_natural (by unfold exactLimit; omega)) hDen ?_
    calc
      a / b * unitsInOne * (b * unitsInOne) = a / b * b * (unitsInOne * unitsInOne) :=
        Nat.mul_mul_mul_comm _ _ _ _
      _ ≤ a * (unitsInOne * unitsInOne) := Nat.mul_le_mul_right _ (Nat.div_mul_le_self a b)
      _ = a * unitsInOne * unitsInOne := (Nat.mul_assoc _ _ _).symm
  · refine Format.round_lt hDen ?_ ?_
    · rw [hQuotient]
      exact Nat.dvd_trans (spacing_dvd_unitsInOne ha hb hPos) (Nat.dvd_mul_left _ _)
    · rw [hQuotient]
      have hStep := mul_spacing_lt ha hb hPos
      generalize twoTo (Format.binary64.spacing (a * unitsInOne / b)) = step at hStep
      have hNext : a + 1 ≤ (a / b + 1) * b := by
        rw [Nat.mul_comm]
        exact Nat.lt_mul_div_succ a hPos
      calc
        2 * (a * unitsInOne * unitsInOne) + b * unitsInOne * step
            = 2 * (a * unitsInOne * unitsInOne) + b * step * unitsInOne := by
          rw [Nat.mul_right_comm b]
        _ < 2 * (a * unitsInOne * unitsInOne) + 2 * unitsInOne * unitsInOne :=
          Nat.add_lt_add_left (Nat.mul_lt_mul_of_pos_right hStep hUnits) _
        _ = 2 * ((a + 1) * (unitsInOne * unitsInOne)) := by
          rw [Nat.add_mul, Nat.one_mul, Nat.mul_add, Nat.mul_assoc a, Nat.mul_assoc 2]
        _ ≤ 2 * ((a / b + 1) * b * (unitsInOne * unitsInOne)) :=
          Nat.mul_le_mul_left 2 (Nat.mul_le_mul_right _ hNext)
        _ = 2 * ((a / b + 1) * unitsInOne * (b * unitsInOne)) := by
          rw [Nat.mul_mul_mul_comm]

theorem div_finite (a b : Bool) {m n : Nat} (hm : Format.binary64.Holds m)
    (hn : Format.binary64.Holds n) (h : n ≠ 0) :
    finite a m hm / finite b n hn = ofRatio (a ^^ b) (m * unitsInOne) n := by
  show div _ _ = _
  simp only [div, if_neg h]

theorem holds_round {num den : Nat}
    (h : Format.binary64.round num den < twoTo Format.binary64.ceiling) :
    Format.binary64.Holds (Format.binary64.round num den) := ⟨h, Format.onGrid_round _ _ _⟩

theorem ofRatio_of_lt (s : Bool) {num den : Nat}
    (h : Format.binary64.round num den < twoTo Format.binary64.ceiling) :
    ofRatio s num den = finite s (Format.binary64.round num den) (holds_round h) := dif_pos h

theorem floor_of_bounds {s : Bool} {n r : Nat} (held : Format.binary64.Holds r)
    (hLow : n * unitsInOne ≤ r) (hHigh : r < (n + 1) * unitsInOne) (hSign : s = true → r = 0) :
    (finite s r held).floor = ofUnits s (n * unitsInOne) := by
  have hWhole : r / unitsInOne = n := Nat.div_eq_of_lt_le hLow hHigh
  have hExact : (s && r % unitsInOne != 0) = false := by
    cases s with
    | false => rfl
    | true => simp [hSign rfl]
  simp only [floor, hExact, hWhole, Bool.false_eq_true, if_false]

theorem index?_floor_div {x y : Number} {a b : Nat} (hx : x.index? = some a)
    (hy : y.index? = some b) (ha : a ≤ maxSafe) (hb : b ≤ maxSafe) (hPos : 0 < b) :
    (x / y).floor.index? = some (a / b) := by
  obtain ⟨s, heldX, rfl, hSignX⟩ := index?_eq_some_iff.mp hx
  obtain ⟨t, heldY, rfl, hSignY⟩ := index?_eq_some_iff.mp hy
  have hLimit : a / b + 1 ≤ exactLimit := Nat.succ_le_succ (Nat.le_trans (Nat.div_le_self a b) ha)
  have hPlus : t = false := by
    cases t with
    | false => rfl
    | true => exact absurd (hSignY rfl) (Nat.ne_of_gt hPos)
  obtain ⟨hLow, hHigh⟩ := round_quotient ha hb hPos
  have hNonzero : b * unitsInOne ≠ 0 := Nat.ne_of_gt (Nat.mul_pos hPos unitsInOne_pos)
  have hCeiling : Format.binary64.round (a * unitsInOne * unitsInOne) (b * unitsInOne) <
      twoTo Format.binary64.ceiling :=
    Nat.lt_trans hHigh (Nat.lt_of_le_of_lt (Nat.mul_le_mul_right _ hLimit) exactLimit_lt_ceiling)
  have hSign : s = true →
      Format.binary64.round (a * unitsInOne * unitsInOne) (b * unitsInOne) = 0 := by
    intro hs
    have hZero := Format.round_of_onGrid (Format.onGrid_zero Format.binary64)
      (Nat.mul_pos hPos unitsInOne_pos)
    rw [Nat.zero_mul] at hZero
    rw [hSignX hs, Nat.zero_mul, Nat.zero_mul, hZero]
  rw [hPlus, div_finite _ _ _ _ hNonzero, ofRatio_of_lt _ hCeiling, Bool.xor_false,
    floor_of_bounds _ hLow hHigh hSign]
  exact index?_ofUnits (Nat.le_of_succ_le hLimit) fun hs => by rw [hSignX hs, Nat.zero_div]

end CubeSlice.Number
