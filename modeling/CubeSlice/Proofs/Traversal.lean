import Mathlib.Data.List.Basic

/-!
# Checks in order

A list whose items are checked one after the other passes just when every item does, and otherwise
fails with the failure of the first item that does not.
-/

namespace CubeSlice.Traversal

variable {ε α β : Type} {f : α → Except ε β}

@[simp] theorem ok_bind (a : α) (g : α → Except ε β) : (Except.ok a >>= g) = g a := rfl

@[simp] theorem error_bind (e : ε) (g : α → Except ε β) :
    ((Except.error e : Except ε α) >>= g) = .error e := rfl

@[simp] theorem pure_eq_ok (a : α) : (pure a : Except ε α) = .ok a := rfl

theorem bind_eq_ok_iff {x : Except ε α} {g : α → Except ε β} {b : β} :
    (x >>= g) = .ok b ↔ ∃ a, x = .ok a ∧ g a = .ok b := by
  cases x <;> simp

theorem bind_eq_error_iff {x : Except ε α} {g : α → Except ε β} {e : ε} :
    (x >>= g) = .error e ↔ x = .error e ∨ ∃ a, x = .ok a ∧ g a = .error e := by
  cases x <;> simp

theorem map_eq_ok_iff {x : Except ε α} {g : α → β} {b : β} : x.map g = .ok b ↔ ∃ a, x = .ok a ∧ g a = b := by
  cases x <;> simp [Except.map]

theorem map_eq_error_iff {x : Except ε α} {g : α → β} {e : ε} : x.map g = .error e ↔ x = .error e := by
  cases x <;> simp [Except.map]

theorem mapError_eq_ok_iff {x : Except ε α} {wrap : ε → β} {a : α} : x.mapError wrap = .ok a ↔ x = .ok a := by
  cases x <;> simp [Except.mapError]

theorem toOption_eq_some_iff {x : Except ε α} {a : α} : x.toOption = some a ↔ x = .ok a := by
  cases x <;> simp [Except.toOption]

theorem mapM_eq_ok_iff {l : List α} {r : List β} :
    l.mapM f = .ok r ↔ r.length = l.length ∧
      ∀ (i : Nat) (a : α) (b : β), l[i]? = some a → r[i]? = some b → f a = .ok b := by
  induction l generalizing r with
  | nil =>
    rw [List.mapM_nil, pure_eq_ok, Except.ok.injEq]
    constructor
    · rintro rfl
      simp
    · rintro ⟨hLength, -⟩
      exact (List.eq_nil_of_length_eq_zero hLength).symm
  | cons a l ih =>
    rw [List.mapM_cons, bind_eq_ok_iff]
    constructor
    · rintro ⟨b, hHead, hRest⟩
      obtain ⟨bs, hTail, hResult⟩ := bind_eq_ok_iff.mp hRest
      cases hResult
      obtain ⟨hLength, hItems⟩ := ih.mp hTail
      refine ⟨by simp [hLength], ?_⟩
      intro i a' b' ha hb
      cases i with
      | zero =>
        obtain rfl : a = a' := by simpa using ha
        obtain rfl : b = b' := by simpa using hb
        exact hHead
      | succ i => exact hItems i a' b' (by simpa using ha) (by simpa using hb)
    · rintro ⟨hLength, hItems⟩
      cases r with
      | nil => simp at hLength
      | cons b bs =>
        refine ⟨b, hItems 0 a b rfl rfl, bind_eq_ok_iff.mpr ⟨bs, ih.mpr ⟨by simpa using hLength, ?_⟩, rfl⟩⟩
        intro i a' b' ha hb
        exact hItems (i + 1) a' b' (by simpa using ha) (by simpa using hb)

theorem mapM_eq_error_iff {l : List α} {e : ε} :
    l.mapM f = .error e ↔ ∃ (i : Nat) (a : α), l[i]? = some a ∧ f a = .error e ∧
      ∀ j < i, ∀ b, l[j]? = some b → ∃ c, f b = .ok c := by
  induction l with
  | nil => simp
  | cons a l ih =>
    rw [List.mapM_cons]
    cases hHead : f a with
    | error e' =>
      rw [error_bind, Except.error.injEq]
      constructor
      · rintro rfl
        exact ⟨0, a, rfl, hHead, fun j hj => absurd hj (Nat.not_lt_zero j)⟩
      · rintro ⟨i, b, hb, hFail, hBefore⟩
        cases i with
        | zero =>
          obtain rfl : a = b := by simpa using hb
          rw [hHead] at hFail
          exact Except.error.inj hFail
        | succ i =>
          obtain ⟨c, hc⟩ := hBefore 0 (Nat.succ_pos i) a rfl
          rw [hHead] at hc
          cases hc
    | ok b =>
      have hTail : (do let bs ← l.mapM f; pure (b :: bs)) = .error e ↔ l.mapM f = .error e := by
        rw [bind_eq_error_iff]
        simp
      rw [ok_bind, hTail, ih]
      constructor
      · rintro ⟨i, a', ha, hFail, hBefore⟩
        refine ⟨i + 1, a', by simpa using ha, hFail, ?_⟩
        intro j hj b' hb
        cases j with
        | zero =>
          obtain rfl : a = b' := by simpa using hb
          exact ⟨b, hHead⟩
        | succ j => exact hBefore j (by omega) b' (by simpa using hb)
      · rintro ⟨i, a', ha, hFail, hBefore⟩
        cases i with
        | zero =>
          obtain rfl : a = a' := by simpa using ha
          rw [hHead] at hFail
          cases hFail
        | succ i =>
          refine ⟨i, a', by simpa using ha, hFail, ?_⟩
          intro j hj b' hb
          exact hBefore (j + 1) (by omega) b' (by simpa using hb)

theorem getElem?_zipIdx {l : List α} {i : Nat} {a : α} {n : Nat} :
    l.zipIdx[i]? = some (a, n) ↔ l[i]? = some a ∧ n = i := by
  rw [List.getElem?_zipIdx]
  cases l[i]? with
  | none => simp
  | some b =>
    simp only [Option.map_some, Option.some.injEq, Prod.mk.injEq, Nat.zero_add]
    exact and_congr_right fun _ => eq_comm

variable {g : α × Nat → Except ε β}

theorem mapM_zipIdx_eq_ok_iff {l : List α} {r : List β} :
    l.zipIdx.mapM g = .ok r ↔ r.length = l.length ∧
      ∀ (i : Nat) (a : α) (b : β), l[i]? = some a → r[i]? = some b → g (a, i) = .ok b := by
  rw [mapM_eq_ok_iff, List.length_zipIdx]
  refine and_congr_right fun _ => ⟨fun h i a b ha hb => ?_, fun h i p b hp hb => ?_⟩
  · exact h i (a, i) b (getElem?_zipIdx.mpr ⟨ha, rfl⟩) hb
  · obtain ⟨a, n⟩ := p
    obtain ⟨ha, rfl⟩ := getElem?_zipIdx.mp hp
    exact h n a b ha hb

theorem exists_of_mapM_zipIdx_eq_ok {l : List α} {r : List β} (h : l.zipIdx.mapM g = .ok r) {i : Nat} {a : α}
    (ha : l[i]? = some a) : ∃ b, r[i]? = some b ∧ g (a, i) = .ok b := by
  obtain ⟨hLength, hItems⟩ := mapM_zipIdx_eq_ok_iff.mp h
  obtain ⟨hi, -⟩ := List.getElem?_eq_some_iff.mp ha
  have hb := List.getElem?_eq_getElem (hLength.symm ▸ hi)
  exact ⟨_, hb, hItems i a _ ha hb⟩

theorem mapM_zipIdx_eq_error_iff {l : List α} {e : ε} :
    l.zipIdx.mapM g = .error e ↔ ∃ (i : Nat) (a : α), l[i]? = some a ∧ g (a, i) = .error e ∧
      ∀ j < i, ∀ b, l[j]? = some b → ∃ c, g (b, j) = .ok c := by
  rw [mapM_eq_error_iff]
  constructor
  · rintro ⟨i, ⟨a, n⟩, hp, hFail, hBefore⟩
    obtain ⟨ha, rfl⟩ := getElem?_zipIdx.mp hp
    exact ⟨n, a, ha, hFail, fun j hj b hb => hBefore j hj (b, j) (getElem?_zipIdx.mpr ⟨hb, rfl⟩)⟩
  · rintro ⟨i, a, ha, hFail, hBefore⟩
    refine ⟨i, (a, i), getElem?_zipIdx.mpr ⟨ha, rfl⟩, hFail, ?_⟩
    rintro j hj ⟨b, n⟩ hp
    obtain ⟨hb, rfl⟩ := getElem?_zipIdx.mp hp
    exact hBefore n hj b hb

end CubeSlice.Traversal
