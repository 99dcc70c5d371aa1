import Mathlib.Algebra.Order.BigOperators.GroupWithZero.List
import Mathlib.Algebra.Order.Ring.Nat
import Mathlib.Data.List.Forall2
import Mathlib.Data.List.Lex
import Mathlib.Data.Set.Function
import Mathlib.Order.Interval.Set.Defs
import CubeSlice.Shape
import CubeSlice.Slice.Extent

/-!
# Row-major order

Sizes and strides are rounded products of dimensions. As long as the exact product of all dimensions is held
exactly, no product is rounded, and the strides lay out index tuples of any rank one behind the other, in their
lexicographic order.
-/

namespace CubeSlice.Shape

open Number

abbrev Are (xs : List Number) (ns : List Nat) : Prop := List.Forall₂ (fun x n => x.index? = some n) xs ns

structure Fits (dims : List Nat) : Prop where
  pos : ∀ d ∈ dims, 0 < d
  limit : dims.prod ≤ exactLimit

/-- How many elements lie behind one step along each dimension: the product of the dimensions after it. -/
def weights : List Nat → List Nat
  | [] => []
  | _ :: dims => dims.prod :: weights dims

def tuples (dims : List Nat) : Set (List Nat) := {p | List.Forall₂ (· < ·) p dims}

/-- Each index times the stride of its dimension, added up. -/
def offset (strides : List Number) (p : List Nat) : Nat := (List.zipWith (fun i x => i * x.toNat) p strides).sum

variable {shape : List Number} {dims : List Nat} {d : Nat}

theorem index?_one : (Number.ofNat 1).index? = some 1 := index?_ofNat (by decide)

theorem Fits.prod_pos (h : Fits dims) : 0 < dims.prod := List.prod_pos h.pos

theorem Fits.tail (h : Fits (d :: dims)) : Fits dims where
  pos e he := h.pos e (List.mem_cons_of_mem d he)
  limit := by
    have hProduct := h.limit
    rw [List.prod_cons] at hProduct
    exact Nat.le_trans (Nat.le_mul_of_pos_left _ (h.pos d List.mem_cons_self)) hProduct

theorem are_stridesAndSize (hShape : Are shape dims) (hDims : Fits dims) :
    Are (stridesAndSize shape).1 (weights dims) ∧ (stridesAndSize shape).2.index? = some dims.prod := by
  induction hShape with
  | nil =>
    simp only [stridesAndSize, List.foldr_nil, List.prod_nil]
    exact ⟨.nil, index?_one⟩
  | @cons x d shape dims hx hShape ih =>
    obtain ⟨hStrides, hSize⟩ := ih hDims.tail
    have hLimit := hDims.limit
    rw [List.prod_cons, Nat.mul_comm] at hLimit ⊢
    exact ⟨.cons hSize hStrides, index?_mul hSize hx hLimit⟩

theorem are_strides (hShape : Are shape dims) (hDims : Fits dims) : Are (strides shape) (weights dims) :=
  (are_stridesAndSize hShape hDims).1

theorem index?_foldl_mul (hShape : Are shape dims) {x : Number} {a : Nat} (hx : x.index? = some a)
    (hPos : ∀ d ∈ dims, 0 < d) (hLimit : a * dims.prod ≤ exactLimit) :
    (shape.foldl (· * ·) x).index? = some (a * dims.prod) := by
  induction hShape generalizing x a with
  | nil => rwa [List.foldl_nil, List.prod_nil, Nat.mul_one]
  | @cons y d shape dims hy hShape ih =>
    -- No product on the way exceeds the last one.
    have hRest : ∀ e ∈ dims, 0 < e := fun e he => hPos e (List.mem_cons_of_mem d he)
    rw [List.prod_cons, ← Nat.mul_assoc] at hLimit ⊢
    have hHere : a * d ≤ exactLimit := Nat.le_trans (Nat.le_mul_of_pos_right _ (List.prod_pos hRest)) hLimit
    exact ih (index?_mul hx hy hHere) hRest hLimit

theorem index?_size (hShape : Are shape dims) (hDims : Fits dims) : (size shape).index? = some dims.prod := by
  have hProduct := index?_foldl_mul hShape index?_one hDims.pos (by rw [Nat.one_mul]; exact hDims.limit)
  rwa [Nat.one_mul] at hProduct

theorem length_weights (dims : List Nat) : (weights dims).length = dims.length := by
  induction dims with
  | nil => rfl
  | cons d dims ih => rw [weights, List.length_cons, List.length_cons, ih]

theorem getElem?_weights {i w : Nat} (h : (weights dims)[i]? = some w) : w = (dims.drop (i + 1)).prod := by
  induction dims generalizing i with
  | nil => cases h
  | cons d dims ih =>
    cases i with
    | zero => exact (Option.some.inj h).symm
    | succ i => exact ih h

theorem index?_getElem?_strides (hShape : Are shape dims) (hDims : Fits dims) {i : Nat} {x : Number}
    (hx : (strides shape)[i]? = some x) : x.index? = some (dims.drop (i + 1)).prod := by
  have hStrides := are_strides hShape hDims
  obtain ⟨hi, rfl⟩ := List.getElem?_eq_some_iff.mp hx
  have hWeight := hStrides.get hi (hStrides.length_eq ▸ hi)
  rw [← getElem?_weights (List.getElem?_eq_getElem (hStrides.length_eq ▸ hi))]
  exact hWeight

/-- Each index times the exact weight of its dimension, added up. -/
def place (p dims : List Nat) : Nat := (List.zipWith (· * ·) p (weights dims)).sum

variable {p q : List Nat} {i : Nat}

theorem place_cons (i : Nat) (p : List Nat) (d : Nat) (dims : List Nat) :
    place (i :: p) (d :: dims) = i * dims.prod + place p dims := by
  rw [place, weights, List.zipWith_cons_cons, List.sum_cons, place]

theorem offset_eq_place (hShape : Are shape dims) (hDims : Fits dims) (p : List Nat) :
    offset (strides shape) p = place p dims := by
  have hStrides := are_strides hShape hDims
  rw [offset, place]
  congr 1
  generalize strides shape = xs, weights dims = ws at hStrides
  induction hStrides generalizing p with
  | nil => rw [List.zipWith_nil_right, List.zipWith_nil_right]
  | cons hx hStrides ih =>
    cases p with
    | nil => rfl
    | cons i p => rw [List.zipWith_cons_cons, List.zipWith_cons_cons, toNat_of_index? hx, ih]

theorem place_lt (h : p ∈ tuples dims) : place p dims < dims.prod := by
  induction h with
  | nil => decide
  | cons hi hp ih =>
    rw [place_cons, List.prod_cons]
    exact mul_add_lt hi ih

theorem exists_place_eq (hDims : Fits dims) {n : Nat} (hn : n < dims.prod) : ∃ p ∈ tuples dims, place p dims = n := by
  induction dims generalizing n with
  | nil => exact ⟨[], .nil, (Nat.lt_one_iff.mp hn).symm⟩
  | cons d dims ih =>
    -- The quotient is the first index, the rest is the place among the others.
    have hPos := hDims.tail.prod_pos
    rw [List.prod_cons] at hn
    obtain ⟨p, hp, hRest⟩ := ih hDims.tail (Nat.mod_lt n hPos)
    refine ⟨n / dims.prod :: p, .cons ((Nat.div_lt_iff_lt_mul hPos).mpr hn) hp, ?_⟩
    rw [place_cons, hRest]
    exact Nat.div_add_mod' n dims.prod

theorem place_lt_of_lex (hp : p ∈ tuples dims) (hq : q ∈ tuples dims) (h : List.Lex (· < ·) p q) :
    place p dims < place q dims := by
  induction h generalizing dims with
  | nil =>
    cases hp
    cases hq
  | @cons i p q hLex ih =>
    cases hp with
    | cons hi hp =>
      cases hq with
      | cons hi hq =>
        rw [place_cons, place_cons]
        exact Nat.add_lt_add_left (ih hp hq) _
  | @rel i p j q hLess =>
    cases hp with
    | cons hi hp =>
      cases hq with
      | cons hj hq =>
        rw [place_cons, place_cons]
        -- All that follows stays below one step of the index that differs.
        exact Nat.lt_of_lt_of_le (mul_add_lt hLess (place_lt hp)) (Nat.le_add_right _ _)

theorem place_injOn (dims : List Nat) : Set.InjOn (place · dims) (tuples dims) := by
  intro p hp q hq hPlace
  rcases trichotomous_of (List.Lex (· < ·)) p q with hLess | hEq | hMore
  · exact absurd hPlace (Nat.ne_of_lt (place_lt_of_lex hp hq hLess))
  · exact hEq
  · exact absurd hPlace.symm (Nat.ne_of_lt (place_lt_of_lex hq hp hMore))

/-- Strides and size of positive dimensions are exact, and the strides number the index tuples without gaps, in
lexicographic order. -/
theorem strides_bijective (hShape : Are shape dims) (hDims : Fits dims) :
    (strides shape).length = dims.length ∧
    (∀ (i : Nat) (x : Number), (strides shape)[i]? = some x → x.index? = some (dims.drop (i + 1)).prod) ∧
    (size shape).index? = some dims.prod ∧
    Set.BijOn (offset (strides shape)) (tuples dims) (Set.Iio dims.prod) ∧
    ∀ p ∈ tuples dims, ∀ q ∈ tuples dims, List.Lex (· < ·) p q →
      offset (strides shape) p < offset (strides shape) q := by
  have hOffset : offset (strides shape) = (place · dims) := funext (offset_eq_place hShape hDims)
  rw [hOffset]
  refine ⟨?_, fun i x hx => index?_getElem?_strides hShape hDims hx, index?_size hShape hDims,
    ⟨fun p hp => place_lt hp, place_injOn dims, fun n hn => exists_place_eq hDims hn⟩,
    fun p hp q hq hLess => place_lt_of_lex hp hq hLess⟩
  rw [(are_strides hShape hDims).length_eq, length_weights]

/-- Three dimensions whose product is the limit itself. -/
theorem strides_bijective_cube : ∃ shape, Are shape [2, 1048576, 4294967296] ∧ Fits [2, 1048576, 4294967296] ∧
    (size shape).index? = some exactLimit ∧
    Set.BijOn (offset (strides shape)) (tuples [2, 1048576, 4294967296]) (Set.Iio exactLimit) ∧
    offset (strides shape) [1, 0, 4294967295] < offset (strides shape) [1, 1, 0] := by
  have hProduct : [2, 1048576, 4294967296].prod = exactLimit := by decide
  have hShape : Are ([2, 1048576, 4294967296].map Number.ofNat) [2, 1048576, 4294967296] :=
    .cons (index?_ofNat (by decide)) (.cons (index?_ofNat (by decide)) (.cons (index?_ofNat (by decide)) .nil))
  have hDims : Fits [2, 1048576, 4294967296] := ⟨by decide, hProduct.le⟩
  obtain ⟨-, -, hSize, hBijective, hOrder⟩ := strides_bijective hShape hDims
  rw [hProduct] at hSize hBijective
  refine ⟨_, hShape, hDims, hSize, hBijective, hOrder _ ?_ _ ?_ (.cons (.rel (by decide)))⟩
  · exact .cons (by decide) (.cons (by decide) (.cons (by decide) .nil))
  · exact .cons (by decide) (.cons (by decide) (.cons (by decide) .nil))

end CubeSlice.Shape
