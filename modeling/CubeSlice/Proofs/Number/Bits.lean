import CubeSlice.DType
import CubeSlice.Number.Bits
import Mathlib.Algebra.Group.Nat.Defs

/-!
# Reading bits

What bits stand for in a binary format, read field by field: the sign, the biased exponent and the
fraction. Reading the bits in which an element of either type is written gives the element back, the
sign of a zero included. Not-a-number may be written as any of its words, which all read alike.
-/

namespace CubeSlice

namespace Format

def exponentBits (f : Format) : Nat := f.magnitudeBits - f.fractionBits

def lastExponent (f : Format) : Nat := twoTo f.exponentBits - 1

def bias (f : Format) : Nat := twoTo (f.exponentBits - 1) - 1

def scaled (f : Format) (exponent significand : Nat) : Nat :=
  significand * twoTo (unitExponent + exponent - (f.bias + f.fractionBits))

/-- The finite magnitude that an exponent field and a fraction stand for. The leading bit is left out
unless the exponent field is zero. -/
def magnitude (f : Format) (exponent fraction : Nat) : Nat :=
  if exponent = 0 then f.scaled 1 fraction else f.scaled exponent (twoTo f.fractionBits + fraction)

/-- The fields have the widths that precision and range ask for. -/
structure IsInterchange (f : Format) : Prop where
  precision : f.precision = f.fractionBits + 1
  magnitude : f.magnitudeBits = f.exponentBits + f.fractionBits
  fraction : 0 < f.fractionBits
  lastExponent : 1 < f.lastExponent
  grain : f.bias + f.fractionBits + f.grain = unitExponent + 1
  ceiling : f.ceiling + 2 = f.grain + f.precision + f.lastExponent
  bytes : 256 ^ f.byteCount = 2 * twoTo f.magnitudeBits

theorem isInterchange (d : DType) : d.format.IsInterchange := by
  cases d <;> constructor <;> decide +kernel

variable {f : Format} {n : Nat}

theorem IsInterchange.scaled_succ (hf : f.IsInterchange) (e m : Nat) :
    f.scaled (e + 1) m = m * twoTo (f.grain + e) := by
  have hExponent : unitExponent + (e + 1) - (f.bias + f.fractionBits) = f.grain + e := by
    have := hf.grain
    omega
  rw [scaled, hExponent]

theorem quotient_lt (hf : f.IsInterchange) : n / twoTo (f.spacing n) < 2 * twoTo f.fractionBits := by
  have hLess := f.lt_twoTo_spacing n
  rw [hf.precision, Nat.add_comm f.fractionBits, Nat.add_assoc, twoTo_add, twoTo_add] at hLess
  rw [Nat.div_lt_iff_lt_mul (twoTo_pos _), Nat.mul_assoc]
  exact hLess

theorem le_quotient (hf : f.IsInterchange) (h : f.grain < f.spacing n) :
    twoTo f.fractionBits ≤ n / twoTo (f.spacing n) := by
  have hPrecision := hf.precision
  have hLog : n.log2 = f.fractionBits + f.spacing n := by
    unfold spacing at h ⊢
    omega
  have hNonzero : n ≠ 0 := by
    rintro rfl
    rw [Nat.log2_zero] at hLog
    omega
  rw [Nat.le_div_iff_mul_le (twoTo_pos _), ← twoTo_add, ← hLog]
  exact Nat.log2_self_le hNonzero

theorem spacing_lt (hf : f.IsInterchange) (h : n < twoTo f.ceiling) :
    f.spacing n - f.grain + 1 < f.lastExponent := by
  have hCeiling := hf.ceiling
  have hLast := hf.lastExponent
  have hLog : n.log2 < f.ceiling := by
    rcases Nat.eq_zero_or_pos n with rfl | hPos
    · rw [Nat.log2_zero]
      have := f.precision_pos
      omega
    · exact (log2_lt_iff (Nat.ne_of_gt hPos)).mpr h
  unfold spacing
  omega

theorem exists_encode (hf : f.IsInterchange) (h : f.Holds n) : ∃ exponent fraction,
    f.encode n = exponent * twoTo f.fractionBits + fraction ∧ fraction < twoTo f.fractionBits ∧
      exponent < f.lastExponent ∧ f.magnitude exponent fraction = n := by
  have hExact : n / twoTo (f.spacing n) * twoTo (f.spacing n) = n := Nat.div_mul_cancel h.2.spacing_dvd
  have hSpacing : f.grain ≤ f.spacing n := Nat.le_max_left _ _
  have hRange := spacing_lt hf h.1
  have hEncode : f.encode n =
      (f.spacing n - f.grain) * twoTo f.fractionBits + n / twoTo (f.spacing n) := rfl
  -- Only at the finest spacing the leading bit can be missing; the exponent field is empty then.
  rcases Nat.lt_or_ge (n / twoTo (f.spacing n)) (twoTo f.fractionBits) with hSmall | hLarge
  · have hFinest : f.spacing n = f.grain := by
      rcases Nat.lt_or_eq_of_le hSpacing with hLess | hSame
      · exact absurd hSmall (Nat.not_lt.mpr (le_quotient hf hLess))
      · exact hSame.symm
    refine ⟨0, n / twoTo (f.spacing n), ?_, hSmall, by omega, ?_⟩
    · rw [hEncode, hFinest, Nat.sub_self]
    · rw [magnitude, if_pos rfl, hf.scaled_succ 0, Nat.add_zero, ← hFinest, hExact]
  · have hBelow := quotient_lt (n := n) hf
    refine ⟨f.spacing n - f.grain + 1, n / twoTo (f.spacing n) - twoTo f.fractionBits, ?_, ?_, hRange, ?_⟩
    · rw [hEncode, Nat.succ_mul]
      omega
    · omega
    · have hUnits : f.grain + (f.spacing n - f.grain) = f.spacing n := by omega
      rw [magnitude, if_neg (Nat.succ_ne_zero _), hf.scaled_succ, Nat.add_sub_cancel' hLarge, hUnits, hExact]

end Format

namespace Number

def ofFields (f : Format) (negative : Bool) (exponent fraction : Nat) : Number :=
  if exponent = f.lastExponent then
    if fraction = 0 then infinite negative else nan
  else
    ofUnits negative (f.magnitude exponent fraction)

/-- The number that bits stand for. -/
def ofBits (f : Format) (bits : Nat) : Number :=
  ofFields f (bits / twoTo f.magnitudeBits % 2 = 1)
    (bits / twoTo f.fractionBits % twoTo f.exponentBits) (bits % twoTo f.fractionBits)

section Fields

variable {f : Format} {exponent fraction : Nat} (hf : f.IsInterchange)
  (hExponent : exponent < twoTo f.exponentBits) (hFraction : fraction < twoTo f.fractionBits)

include hf

theorem withSign_eq (s : Bool) : withSign f s (exponent * twoTo f.fractionBits + fraction) =
    (s.toNat * twoTo f.exponentBits + exponent) * twoTo f.fractionBits + fraction := by
  cases s with
  | false => simp [withSign]
  | true =>
    rw [withSign, if_pos rfl, hf.magnitude, twoTo_add, Bool.toNat_true, Nat.one_mul, Nat.add_mul, Nat.add_assoc]

include hExponent hFraction

theorem ofBits_withSign (s : Bool) :
    ofBits f (withSign f s (exponent * twoTo f.fractionBits + fraction)) = ofFields f s exponent fraction := by
  have hHigh : ((s.toNat * twoTo f.exponentBits + exponent) * twoTo f.fractionBits + fraction) /
      twoTo f.fractionBits = s.toNat * twoTo f.exponentBits + exponent := by
    rw [Nat.mul_comm, Nat.mul_add_div (twoTo_pos _), Nat.div_eq_of_lt hFraction, Nat.add_zero]
  have hSign : (s.toNat * twoTo f.exponentBits + exponent) / twoTo f.exponentBits = s.toNat := by
    rw [Nat.mul_comm, Nat.mul_add_div (twoTo_pos _), Nat.div_eq_of_lt hExponent, Nat.add_zero]
  have hField : (s.toNat * twoTo f.exponentBits + exponent) % twoTo f.exponentBits = exponent := by
    rw [Nat.mul_comm, Nat.mul_add_mod, Nat.mod_eq_of_lt hExponent]
  have hRest : ((s.toNat * twoTo f.exponentBits + exponent) * twoTo f.fractionBits + fraction) %
      twoTo f.fractionBits = fraction := by
    rw [Nat.mul_comm, Nat.mul_add_mod, Nat.mod_eq_of_lt hFraction]
  have hNegative : decide (s.toNat % 2 = 1) = s := by cases s <;> rfl
  rw [withSign_eq hf, ofBits, hf.magnitude, Nat.add_comm f.exponentBits, twoTo_add, ← Nat.div_div_eq_div_mul]
  simp only [hHigh, hSign, hField, hRest, hNegative]

theorem withSign_lt (s : Bool) :
    withSign f s (exponent * twoTo f.fractionBits + fraction) < 256 ^ f.byteCount := by
  have hMagnitude : exponent * twoTo f.fractionBits + fraction < twoTo f.magnitudeBits := by
    have hNext := Nat.mul_le_mul_right (twoTo f.fractionBits) (Nat.succ_le_of_lt hExponent)
    rw [hf.magnitude, twoTo_add]
    rw [Nat.succ_mul] at hNext
    omega
  rw [hf.bytes, withSign]
  split <;> omega

end Fields

theorem holds_of_round {d : DType} {n : Nat} {held : Format.binary64.Holds n}
    (h : d.round (finite s n held) = finite s n held) : d.format.Holds n := by
  cases d with
  | double => exact held
  | single =>
    have hSingle : (finite s n held).toSingle = finite s n held := h
    rw [toSingle_finite] at hSingle
    split at hSingle
    · rename_i hBelow
      have hHolds : Format.binary32.Holds (Format.binary32.round n 1) := ⟨hBelow, Format.onGrid_round _ _ _⟩
      rw [ofUnits_of_holds s (Format.holds_binary64_of_binary32 hHolds)] at hSingle
      rw [(finite.inj hSingle).2] at hHolds
      exact hHolds
    · cases hSingle

theorem infinityBits_eq {f : Format} (hf : f.IsInterchange) :
    f.infinityBits = f.lastExponent * twoTo f.fractionBits := by
  rw [Format.infinityBits, Format.lastExponent, hf.magnitude, twoTo_add, Nat.sub_mul, Nat.one_mul]

theorem lastExponent_lt (f : Format) : f.lastExponent < twoTo f.exponentBits :=
  Nat.sub_one_lt (Nat.ne_of_gt (twoTo_pos _))

theorem exists_withSign_of_isNaNWord {f : Format} (hf : f.IsInterchange) {bits : Nat} (h : f.IsNaNWord bits) :
    ∃ s fraction, bits = withSign f s (f.lastExponent * twoTo f.fractionBits + fraction) ∧ 0 < fraction ∧
      fraction < twoTo f.fractionBits := by
  obtain ⟨hBits, hFraction⟩ := h
  have hInfinity := infinityBits_eq hf
  have hFractions : twoTo f.fractionBits ≤ twoTo f.magnitudeBits := by
    rw [hf.magnitude, twoTo_add]
    exact Nat.le_mul_of_pos_left _ (twoTo_pos _)
  have hTotal : f.infinityBits + twoTo f.fractionBits = twoTo f.magnitudeBits := Nat.sub_add_cancel hFractions
  have hRest := Nat.mod_lt bits (twoTo_pos f.magnitudeBits)
  have hSplit := Nat.div_add_mod bits (twoTo f.magnitudeBits)
  have hSign : bits / twoTo f.magnitudeBits < 2 := by
    rw [Nat.div_lt_iff_lt_mul (twoTo_pos _)]
    rwa [twoTo_add, Nat.mul_comm] at hBits
  refine ⟨bits / twoTo f.magnitudeBits = 1, bits % twoTo f.magnitudeBits - f.infinityBits, ?_, by omega, by omega⟩
  rw [← hInfinity, Nat.add_sub_cancel' (Nat.le_of_lt hFraction), withSign]
  obtain hNone | hOne := Nat.le_one_iff_eq_zero_or_eq_one.mp (Nat.le_of_lt_succ hSign)
  · rw [hNone, Nat.mul_zero, Nat.zero_add] at hSplit
    simp [hNone, hSplit]
  · rw [hOne, Nat.mul_one] at hSplit
    simp [hOne, hSplit]

theorem ofBits_of_isNaNWord {d : DType} {bits : Nat} (h : d.format.IsNaNWord bits) :
    ofBits d.format bits = nan := by
  have hf := Format.isInterchange d
  obtain ⟨s, fraction, rfl, hPos, hFraction⟩ := exists_withSign_of_isNaNWord hf h
  rw [ofBits_withSign hf (lastExponent_lt d.format) hFraction, ofFields, if_pos rfl, if_neg (Nat.ne_of_gt hPos)]

variable {d : DType} {nanWord : Nat} (hNaN : d.format.IsNaNWord nanWord)
include hNaN

theorem exists_toBits {x : Number} (h : d.round x = x) : ∃ s exponent fraction,
    x.toBits d.format nanWord = withSign d.format s (exponent * twoTo d.format.fractionBits + fraction) ∧
      exponent < twoTo d.format.exponentBits ∧ fraction < twoTo d.format.fractionBits ∧
      ofFields d.format s exponent fraction = x := by
  have hf := Format.isInterchange d
  have hLast := lastExponent_lt d.format
  match x with
  | nan =>
    obtain ⟨s, fraction, hBits, hPos, hFraction⟩ := exists_withSign_of_isNaNWord hf hNaN
    refine ⟨s, d.format.lastExponent, fraction, hBits, hLast, hFraction, ?_⟩
    rw [ofFields, if_pos rfl, if_neg (Nat.ne_of_gt hPos)]
  | infinite s =>
    refine ⟨s, d.format.lastExponent, 0, ?_, hLast, twoTo_pos _, ?_⟩
    · rw [toBits, infinityBits_eq hf, Nat.add_zero]
    · rw [ofFields, if_pos rfl, if_pos rfl]
  | finite s n held =>
    obtain ⟨exponent, fraction, hEncode, hFraction, hExponent, hMagnitude⟩ :=
      Format.exists_encode hf (holds_of_round h)
    refine ⟨s, exponent, fraction, ?_, Nat.lt_trans hExponent hLast, hFraction, ?_⟩
    · rw [toBits, hEncode]
    · rw [ofFields, if_neg (Nat.ne_of_lt hExponent), hMagnitude, ofUnits_of_holds]

/-- Reading what an element is written as gives the element. -/
theorem ofBits_toBits {x : Number} (h : d.round x = x) : ofBits d.format (x.toBits d.format nanWord) = x := by
  obtain ⟨s, exponent, fraction, hBits, hExponent, hFraction, hValue⟩ := exists_toBits hNaN h
  rw [hBits, ofBits_withSign (Format.isInterchange d) hExponent hFraction, hValue]

example : ofBits Format.binary64 0x3FF8000000000000 = ofRatio false (3 * unitsInOne) 2 := by decide +kernel

theorem toBits_lt {x : Number} (h : d.round x = x) :
    x.toBits d.format nanWord < 256 ^ d.format.byteCount := by
  obtain ⟨s, exponent, fraction, hBits, hExponent, hFraction, -⟩ := exists_toBits hNaN h
  rw [hBits]
  exact withSign_lt (Format.isInterchange d) hExponent hFraction s

end Number

end CubeSlice
