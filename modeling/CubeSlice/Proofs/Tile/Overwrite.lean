import Mathlib.Data.List.Basic

/-!
# Overwriting

Seen from one place, a step of writing either puts a value there or leaves what is there:
`Settles view step w`. In a sequence of such steps the last one that writes wins.
-/

namespace CubeSlice

variable {σ α β : Type}

/-- The step puts `w` into view, or leaves the view as it is if `w` is none. Where there is nothing
to see, nothing can be put. -/
def Settles (view : σ → Option β) (step : σ → σ) (w : Option β) : Prop :=
  ∀ s, view (step s) = (view s).map w.getD

namespace Settles

variable {view : σ → Option β}

theorem unchanged (view : σ → Option β) : Settles view (fun s => s) none := by
  intro s
  cases view s <;> rfl

theorem view_eq {step : σ → σ} (h : Settles view step none) (s : σ) : view (step s) = view s :=
  (h s).trans (unchanged view s).symm

theorem view_eq_some {step : σ → σ} {s : σ} {b c : β} (h : Settles view step (some b))
    (hView : view s = some c) : view (step s) = some b := by
  rw [h s, hView]
  rfl

theorem comp {first second : σ → σ} {w w' : Option β} (h : Settles view first w)
    (h' : Settles view second w') : Settles view (fun s => second (first s)) (w'.or w) := by
  intro s
  rw [h' (first s), h s, Option.map_map]
  cases w' <;> rfl

/-- Nothing is seen of a step behind which another writes whatever it wrote. -/
theorem absorbs {first second : σ → σ} {w w' : Option β} (h : Settles view first w)
    (h' : Settles view second w') (hOr : w'.or w = w') (s : σ) :
    view (second (first s)) = view (second s) := by
  have hBoth := h.comp h' s
  rw [hOr] at hBoth
  exact hBoth.trans (h' s).symm

theorem foldl {step : σ → α → σ} {w : α → Option β} (l : List α)
    (h : ∀ a ∈ l, Settles view (fun s => step s a) (w a)) :
    Settles view (fun s => l.foldl step s) (l.filterMap w).getLast? := by
  induction l with
  | nil => exact .unchanged view
  | cons a l ih =>
    have hHead := h a List.mem_cons_self
    have hTail := ih fun b hb => h b (List.mem_cons_of_mem a hb)
    have hLast : ((a :: l).filterMap w).getLast? = (l.filterMap w).getLast?.or (w a) := by
      cases hw : w a with
      | none => rw [List.filterMap_cons_none hw, Option.or_none]
      | some b =>
        rw [List.filterMap_cons_some hw, List.getLast?_cons]
        cases (l.filterMap w).getLast? <;> rfl
    rw [hLast]
    exact hHead.comp hTail

end Settles

theorem foldl_view {γ : Type} {view : σ → γ} {step : σ → α → σ} (h : ∀ s a, view (step s a) = view s)
    (l : List α) (s : σ) : view (l.foldl step s) = view s := by
  induction l generalizing s with
  | nil => rfl
  | cons a l ih => exact (ih (step s a)).trans (h s a)

theorem getLast?_filterMap_eq_none_iff {w : α → Option β} {l : List α} :
    (l.filterMap w).getLast? = none ↔ ∀ a ∈ l, w a = none := by
  rw [List.getLast?_eq_none_iff, List.filterMap_eq_nil_iff]

theorem getLast?_filterMap_of_agree {w : α → Option β} {l : List α} {b : β} (hMem : ∃ a ∈ l, w a = some b)
    (hAgree : ∀ a ∈ l, ∀ c, w a = some c → c = b) : (l.filterMap w).getLast? = some b := by
  obtain ⟨a, ha, hSome⟩ := hMem
  cases hLast : (l.filterMap w).getLast? with
  | none =>
    rw [getLast?_filterMap_eq_none_iff.mp hLast a ha] at hSome
    cases hSome
  | some c =>
    obtain ⟨a', ha', hSome'⟩ := List.mem_filterMap.mp (List.mem_of_getLast? hLast)
    rw [hAgree a' ha' c hSome']

theorem getLast?_filterMap_eq_some_iff {w : α → Option β} {l : List α} {b : β} :
    (l.filterMap w).getLast? = some b ↔ ∃ (i : Nat) (a : α), l[i]? = some a ∧ w a = some b ∧
      ∀ (j : Nat) (c : α), i < j → l[j]? = some c → w c = none := by
  induction l with
  | nil => simp
  | cons a l ih =>
    cases hTail : (l.filterMap w).getLast? with
    | some c =>
      have hLast : ((a :: l).filterMap w).getLast? = some c := by
        cases hw : w a with
        | none => rw [List.filterMap_cons_none hw, hTail]
        | some d => rw [List.filterMap_cons_some hw, List.getLast?_cons, hTail]; rfl
      rw [hLast, ← hTail, ih]
      constructor
      · rintro ⟨i, x, hx, hb, hAfter⟩
        refine ⟨i + 1, x, by simpa using hx, hb, fun j y hj hy => ?_⟩
        obtain ⟨j, rfl⟩ : ∃ k, j = k + 1 := ⟨j - 1, by omega⟩
        exact hAfter j y (by omega) (by simpa using hy)
      · rintro ⟨i, x, hx, hb, hAfter⟩
        cases i with
        | zero =>
          have hNone : (l.filterMap w).getLast? = none := by
            rw [getLast?_filterMap_eq_none_iff]
            intro y hy
            obtain ⟨j, hj⟩ := List.mem_iff_getElem?.mp hy
            exact hAfter (j + 1) y (Nat.succ_pos j) (by simpa using hj)
          rw [hNone] at hTail
          cases hTail
        | succ i =>
          exact ⟨i, x, by simpa using hx, hb,
            fun j y hj hy => hAfter (j + 1) y (by omega) (by simpa using hy)⟩
    | none =>
      rw [getLast?_filterMap_eq_none_iff] at hTail
      have hLast : ((a :: l).filterMap w).getLast? = w a := by
        have hNil : l.filterMap w = [] := List.filterMap_eq_nil_iff.mpr hTail
        cases hw : w a with
        | none => rw [List.filterMap_cons_none hw, hNil]; rfl
        | some d => rw [List.filterMap_cons_some hw, hNil]; rfl
      rw [hLast]
      constructor
      · intro hb
        refine ⟨0, a, rfl, hb, fun j y hj hy => ?_⟩
        obtain ⟨j, rfl⟩ : ∃ k, j = k + 1 := ⟨j - 1, by omega⟩
        exact hTail y (List.mem_iff_getElem?.mpr ⟨j, by simpa using hy⟩)
      · rintro ⟨i, x, hx, hb, -⟩
        cases i with
        | zero =>
          obtain rfl : a = x := by simpa using hx
          exact hb
        | succ i =>
          have hMem : x ∈ l := List.mem_iff_getElem?.mpr ⟨i, by simpa using hx⟩
          rw [hTail x hMem] at hb
          cases hb

end CubeSlice
