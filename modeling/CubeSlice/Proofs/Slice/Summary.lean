import CubeSlice.Proofs.Number.Text
import CubeSlice.Proofs.Slice.Elements
import CubeSlice.Slice.Summary
import Mathlib.Data.Int.ConditionallyCompleteOrder

/-!
# What summaries tell

Least and greatest element of a slice are the first ones of two opposite rankings. Which numbers are ranked first
does not depend on their order, up to the sign of a zero, nor does the number of zeros.
-/

namespace CubeSlice

namespace Number

variable {x y z : Number}

/-- Where a number stands among the integers of units with both infinities. -/
def place : Number → Option (WithBot (WithTop Int))
  | nan => none
  | infinite true => some ⊥
  | infinite false => some ⊤
  | finite s n _ => some ((signed s n : Int) : WithTop Int)

theorem exists_place (h : x.isNaN = false) : ∃ p, x.place = some p := by
  cases x with
  | nan => cases h
  | infinite s => cases s <;> exact ⟨_, rfl⟩
  | finite s n held => exact ⟨_, rfl⟩

theorem isNaN_of_place {p : WithBot (WithTop Int)} (h : x.place = some p) : x.isNaN = false := by
  cases x with
  | nan => cases h
  | infinite s => rfl
  | finite s n held => rfl

theorem le_iff_place {p q : WithBot (WithTop Int)} (hx : x.place = some p) (hy : y.place = some q) :
    x.le y = true ↔ p ≤ q := by
  rcases x with _ | (_ | _) | _ <;> rcases y with _ | (_ | _) | _ <;> cases hx <;> cases hy <;> simp [le]

theorem lt_iff_place {p q : WithBot (WithTop Int)} (hx : x.place = some p) (hy : y.place = some q) :
    x.lt y = true ↔ p < q := by
  rcases x with _ | (_ | _) | _ <;> rcases y with _ | (_ | _) | _ <;> cases hx <;> cases hy <;>
    simp [lt, lt_top_iff_ne_top, ← WithBot.coe_top]

theorem exists_places_of_le (h : x.le y = true) : ∃ p q, x.place = some p ∧ y.place = some q ∧ p ≤ q := by
  have hx : x.isNaN = false := by cases x <;> first | rfl | cases h
  have hy : y.isNaN = false := by cases y <;> first | rfl | (cases x <;> cases h)
  obtain ⟨p, hp⟩ := exists_place hx
  obtain ⟨q, hq⟩ := exists_place hy
  exact ⟨p, q, hp, hq, (le_iff_place hp hq).mp h⟩

theorem le_of_lt (h : x.lt y = true) : x.le y = true := by
  have hx : x.isNaN = false := by cases x <;> first | rfl | cases h
  have hy : y.isNaN = false := by cases y <;> first | rfl | (cases x <;> cases h)
  obtain ⟨p, hp⟩ := exists_place hx
  obtain ⟨q, hq⟩ := exists_place hy
  exact (le_iff_place hp hq).mpr ((lt_iff_place hp hq).mp h).le

theorem le_of_not_lt (hx : x.isNaN = false) (hy : y.isNaN = false) (h : x.lt y = false) : y.le x = true := by
  obtain ⟨p, hp⟩ := exists_place hx
  obtain ⟨q, hq⟩ := exists_place hy
  rw [← Bool.not_eq_true, lt_iff_place hp hq, not_lt] at h
  exact (le_iff_place hq hp).mpr h

theorem le_trans (hxy : x.le y = true) (hyz : y.le z = true) : x.le z = true := by
  obtain ⟨p, q, hp, hq, hpq⟩ := exists_places_of_le hxy
  obtain ⟨q', r, hq', hr, hqr⟩ := exists_places_of_le hyz
  obtain rfl := Option.some.inj (hq.symm.trans hq')
  exact (le_iff_place hp hr).mpr (hpq.trans hqr)

theorem eqUpToSign_of_signed_eq {s t : Bool} {m n : Nat} {hm : Format.binary64.Holds m}
    {hn : Format.binary64.Holds n} (h : signed s m = signed t n) : (finite s m hm).EqUpToSign (finite t n hn) := by
  have hCases : s = t ∧ m = n ∨ m = 0 ∧ n = 0 := by
    cases s <;> cases t <;> simp [signed] at h ⊢ <;> omega
  rcases hCases with ⟨rfl, rfl⟩ | ⟨rfl, rfl⟩
  · exact .inl rfl
  · exact .inr ⟨rfl, rfl⟩

theorem eqUpToSign_of_place_eq {p : WithBot (WithTop Int)} (hx : x.place = some p) (hy : y.place = some p) :
    x.EqUpToSign y := by
  have hPlace := hx.trans hy.symm
  rcases x with _ | (_ | _) | _ <;> rcases y with _ | (_ | _) | _ <;> simp [place, ← WithBot.coe_top] at hx hPlace
  · exact .inl rfl
  · exact .inl rfl
  · exact eqUpToSign_of_signed_eq hPlace

theorem eqUpToSign_of_le (hxy : x.le y = true) (hyx : y.le x = true) : x.EqUpToSign y := by
  obtain ⟨p, q, hp, hq, hpq⟩ := exists_places_of_le hxy
  exact eqUpToSign_of_place_eq hp (hpq.antisymm ((le_iff_place hq hp).mp hyx) ▸ hq)

theorem isNaN_of_le (h : x.le y = true) : x.isNaN = false ∧ y.isNaN = false := by
  obtain ⟨p, q, hp, hq, -⟩ := exists_places_of_le h
  exact ⟨isNaN_of_place hp, isNaN_of_place hq⟩

/-- How first numbers are looked for: one takes the place of another if it is preferred to it. -/
structure Ranking (prefers ranks : Number → Number → Bool) : Prop where
  of_prefers {x y : Number} (h : prefers x y = true) : ranks x y = true
  of_not_prefers {x y : Number} (hx : x.isNaN = false) (hy : y.isNaN = false) (h : prefers x y = false) :
    ranks y x = true
  trans {x y z : Number} (hxy : ranks x y = true) (hyz : ranks y z = true) : ranks x z = true
  eqUpToSign {x y : Number} (hxy : ranks x y = true) (hyx : ranks y x = true) : x.EqUpToSign y
  isNaN {x y : Number} (h : ranks x y = true) : x.isNaN = false

theorem ranking_least : Ranking (fun x y => x.lt y) (fun x y => x.le y) :=
  ⟨le_of_lt, le_of_not_lt, le_trans, eqUpToSign_of_le, fun h => (isNaN_of_le h).1⟩

theorem ranking_greatest : Ranking (fun x y => y.lt x) (fun x y => y.le x) :=
  ⟨le_of_lt, fun hx hy h => le_of_not_lt hy hx h, fun hxy hyz => le_trans hyz hxy,
    fun hxy hyx => eqUpToSign_of_le hyx hxy, fun h => (isNaN_of_le h).2⟩

/-- The number is among the others or what they are started from, and it is ranked before all of them that are
numbers. -/
structure IsFirst (ranks : Number → Number → Bool) (start : Number) (xs : List Number) (m : Number) : Prop where
  mem : m = start ∨ m ∈ xs
  start : ranks m start = true
  first : ∀ x ∈ xs, x.isNaN = false → ranks m x = true

def pickFirst (prefers : Number → Number → Bool) (start : Number) (xs : List Number) : Number :=
  xs.foldl (fun m x => if prefers x m then x else m) start

theorem pickFirst_cons (prefers : Number → Number → Bool) (start x : Number) (xs : List Number) :
    pickFirst prefers start (x :: xs) = pickFirst prefers (if prefers x start then x else start) xs := rfl

section Ranking

variable {prefers ranks : Number → Number → Bool} (hRanking : Ranking prefers ranks) {start : Number}
include hRanking

theorem Ranking.refl (hx : x.isNaN = false) : ranks x x = true := by
  cases h : prefers x x with
  | true => exact hRanking.of_prefers h
  | false => exact hRanking.of_not_prefers hx hx h

theorem Ranking.isFirst_pickFirst (hStart : start.isNaN = false) (xs : List Number) :
    IsFirst ranks start xs (pickFirst prefers start xs) := by
  induction xs generalizing start with
  | nil => exact ⟨.inl rfl, hRanking.refl hStart, List.forall_mem_nil _⟩
  | cons x xs ih =>
    rw [pickFirst_cons]
    cases hPrefers : prefers x start with
    | true =>
      have hBefore := hRanking.of_prefers hPrefers
      obtain ⟨hMem, hHere, hRest⟩ := ih (hRanking.isNaN hBefore)
      rw [if_pos rfl]
      refine ⟨.inr (List.mem_cons.mpr hMem), hRanking.trans hHere hBefore, ?_⟩
      rintro y (_ | ⟨_, hy⟩) hNumber
      · exact hHere
      · exact hRest y hy hNumber
    | false =>
      obtain ⟨hMem, hHere, hRest⟩ := ih hStart
      rw [if_neg Bool.false_ne_true]
      refine ⟨hMem.imp_right (List.mem_cons_of_mem x), hHere, ?_⟩
      rintro y (_ | ⟨_, hy⟩) hNumber
      · exact hRanking.trans hHere (hRanking.of_not_prefers hNumber hStart hPrefers)
      · exact hRest y hy hNumber

theorem Ranking.eqUpToSign_of_isFirst {xs ys : List Number} (hx : IsFirst ranks start xs x)
    (hy : IsFirst ranks start ys y)
    (hSame : ∀ z, z ∈ xs ↔ z ∈ ys) : x.EqUpToSign y := by
  have hBefore {xs ys : List Number} {x y : Number} (hx : IsFirst ranks start xs x) (hy : IsFirst ranks start ys y)
      (hSame : ∀ z, z ∈ xs ↔ z ∈ ys) : ranks x y = true := by
    rcases hy.mem with rfl | hMem
    · exact hx.start
    · exact hx.first y ((hSame y).mpr hMem) (hRanking.isNaN hy.start)
  exact hRanking.eqUpToSign (hBefore hx hy hSame) (hBefore hy hx fun z => (hSame z).symm)

end Ranking

theorem sixDigits_of_isZero (h : x.isZero = true) : x.sixDigits = x := by
  cases x with
  | nan => cases h
  | infinite negative => cases h
  | finite s n held => exact if_pos (eq_of_beq h)

theorem EqUpToSign.text_sixDigits_eq (h : x.EqUpToSign y) : x.sixDigits.text = y.sixDigits.text := by
  rcases h with rfl | hZero
  · rfl
  · rw [sixDigits_of_isZero hZero.1, sixDigits_of_isZero hZero.2, EqUpToSign.text_eq (.inr hZero)]

end Number

namespace Summary

theorem tally_eq (xs : List Number) (t : Tally) :
    (xs.foldl Tally.add t).min = Number.pickFirst (fun x y => x.lt y) t.min xs ∧
    (xs.foldl Tally.add t).max = Number.pickFirst (fun x y => y.lt x) t.max xs ∧
    (xs.foldl Tally.add t).zeros = t.zeros + xs.countP Number.isZero := by
  induction xs generalizing t with
  | nil => exact ⟨rfl, rfl, rfl⟩
  | cons x xs ih =>
    obtain ⟨hMin, hMax, hZeros⟩ := ih (t.add x)
    refine ⟨hMin, hMax, hZeros.trans ?_⟩
    rw [List.countP_cons, Tally.add]
    dsimp only
    split <;> omega

end Summary

namespace Slice

variable (s : Slice)

theorem isFirst_min : Number.IsFirst (fun x y => x.le y) (.infinite false) s.toList s.summary.min := by
  have hMin := (Summary.tally_eq s.toList .empty).1
  rw [summary, Summary.tally, hMin]
  exact Number.ranking_least.isFirst_pickFirst rfl s.toList

theorem isFirst_max : Number.IsFirst (fun x y => y.le x) (.infinite true) s.toList s.summary.max := by
  have hMax := (Summary.tally_eq s.toList .empty).2.1
  rw [summary, Summary.tally, hMax]
  exact Number.ranking_greatest.isFirst_pickFirst rfl s.toList

theorem summary_zeros : s.summary.zeros = .ofNat (s.toList.countP Number.isZero) := by
  have hZeros := (Summary.tally_eq s.toList .empty).2.2
  rw [summary, Summary.tally, hZeros, Summary.Tally.empty, Nat.zero_add]

theorem summary_of_perm {s t : Slice} (h : t.toList.Perm s.toList) :
    t.summary.min.EqUpToSign s.summary.min ∧ t.summary.max.EqUpToSign s.summary.max ∧
      t.summary.zeros = s.summary.zeros := by
  refine ⟨?_, ?_, by rw [summary_zeros, summary_zeros, h.countP_eq]⟩
  · exact Number.ranking_least.eqUpToSign_of_isFirst t.isFirst_min s.isFirst_min fun _ => h.mem_iff
  · exact Number.ranking_greatest.eqUpToSign_of_isFirst t.isFirst_max s.isFirst_max fun _ => h.mem_iff

end Slice

end CubeSlice
