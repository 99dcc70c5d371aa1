import CubeSlice.Number.Arithmetic

/-!
# Single precision

Rounding to binary32 inside binary64. What it yields is a binary32 value, so that rounding again
changes nothing (`toSingle_toSingle`).
-/

namespace CubeSlice

theorem Format.holds_binary64_of_binary32 {n : Nat} (h : Format.binary32.Holds n) :
    Format.binary64.Holds n := by
  obtain ⟨hlt, m, e, hm, he, rfl⟩ := h
  have hceiling : Format.binary32.ceiling ≤ Format.binary64.ceiling := by decide
  have hprecision : Format.binary32.precision ≤ Format.binary64.precision := by decide
  refine ⟨Nat.lt_of_lt_of_le hlt (twoTo_le_twoTo hceiling), m, e, ?_,
    Nat.zero_le e, rfl⟩
  exact Nat.lt_of_lt_of_le hm (twoTo_le_twoTo hprecision)

namespace Number

/-- The nearest binary32 value; magnitudes from `2 ^ 128` on are infinite. -/
def toSingle : Number → Number
  | finite negative n _ =>
    let single := Format.binary32.round n 1
    if single < twoTo Format.binary32.ceiling then ofUnits negative single else infinite negative
  | x => x

theorem toSingle_finite (negative : Bool) {n : Nat} (held : Format.binary64.Holds n) :
    (finite negative n held).toSingle =
      if Format.binary32.round n 1 < twoTo Format.binary32.ceiling then
        ofUnits negative (Format.binary32.round n 1)
      else
        infinite negative := rfl

theorem toSingle_of_holds (negative : Bool) {n : Nat} (h : Format.binary32.Holds n)
    (held : Format.binary64.Holds n) :
    (finite negative n held).toSingle = finite negative n held := by
  have hround := Format.round_of_onGrid h.2 Nat.one_pos
  rw [Nat.mul_one] at hround
  rw [toSingle_finite, hround, if_pos h.1, ofUnits_of_holds]

theorem toSingle_toSingle (x : Number) : x.toSingle.toSingle = x.toSingle := by
  match x with
  | nan => rfl
  | infinite _ => rfl
  | finite negative n held =>
    rw [toSingle_finite]
    split
    · rename_i hlt
      have h : Format.binary32.Holds (Format.binary32.round n 1) :=
        ⟨hlt, Format.onGrid_round _ _ _⟩
      rw [ofUnits_of_holds negative (Format.holds_binary64_of_binary32 h), toSingle_of_holds _ h]
    · rfl

end Number

end CubeSlice
