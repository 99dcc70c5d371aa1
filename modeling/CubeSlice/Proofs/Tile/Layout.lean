import CubeSlice.Number.Natural
import CubeSlice.Proofs.Traversal
import CubeSlice.Tile.Layout

/-!
# Which values are layouts

A value is a layout when each of the five fields, asked for by name, holds a natural number that is
safe: `Layout.Holds`. Every other value is refused, and the refusal names the first field in order
that holds no such number, unless what it holds cannot be told in a message.
-/

namespace CubeSlice

open Traversal

namespace Layout

def Field.position (f : Field) : Nat := Field.all.idxOf f

theorem Field.getElem?_all {i : Nat} {f : Field} : Field.all[i]? = some f ↔ i = f.position := by
  constructor
  · intro h
    obtain ⟨hi, rfl⟩ := List.getElem?_eq_some_iff.mp h
    have hIndices : ∀ j, j.val = (Field.all.get j).position := by decide
    exact hIndices ⟨i, hi⟩
  · rintro rfl
    cases f <;> rfl

end Layout

namespace Strided

variable {ε α : Type} {read : Layout.Field → Except ε α}

theorem ofFieldsM_eq_ok_iff {s : Strided α} : ofFieldsM read = .ok s ↔ ∀ f, read f = .ok (s.get f) := by
  constructor
  · intro h
    obtain ⟨a, ha, h⟩ := bind_eq_ok_iff.mp h
    obtain ⟨b, hb, h⟩ := bind_eq_ok_iff.mp h
    obtain ⟨c, hc, h⟩ := bind_eq_ok_iff.mp h
    obtain ⟨d, hd, h⟩ := bind_eq_ok_iff.mp h
    obtain ⟨e, he, h⟩ := bind_eq_ok_iff.mp h
    cases h
    intro f
    cases f
    · exact ha
    · exact hb
    · exact hc
    · exact hd
    · exact he
  · intro h
    simp only [ofFieldsM, h, ok_bind]
    rfl

theorem mapM_all (read : Layout.Field → Except ε α) :
    Layout.Field.all.mapM read = (fun s => Layout.Field.all.map s.get) <$> ofFieldsM read := by
  simp only [Layout.Field.all, ofFieldsM, List.mapM_cons, List.mapM_nil, map_bind,
    bind_pure_comp, map_pure, Functor.map_map]
  rfl

theorem ofFieldsM_eq_error_iff {e : ε} : ofFieldsM read = .error e ↔
    ∃ f, read f = .error e ∧ ∀ g : Layout.Field, g.position < f.position → ∃ a, read g = .ok a := by
  have hMap : ofFieldsM read = .error e ↔ Layout.Field.all.mapM read = .error e := by
    rw [mapM_all]
    cases ofFieldsM read with
    | error e' => simp [Functor.map, Except.map]
    | ok s => simp [Functor.map, Except.map]
  rw [hMap, mapM_eq_error_iff]
  constructor
  · rintro ⟨i, f, hf, hFail, hBefore⟩
    obtain rfl := Layout.Field.getElem?_all.mp hf
    exact ⟨f, hFail, fun g hg => hBefore g.position hg g (Layout.Field.getElem?_all.mpr rfl)⟩
  · rintro ⟨f, hFail, hBefore⟩
    refine ⟨f.position, f, Layout.Field.getElem?_all.mpr rfl, hFail, fun j hj g hg => ?_⟩
    obtain rfl := Layout.Field.getElem?_all.mp hg
    exact hBefore g hj

end Strided

namespace Count

theorem exists_index? (c : Count) : ∃ n, c.number.index? = some n ∧ n ≤ maxSafe :=
  Number.safe_not_negative_iff.mp ⟨c.isSafe, c.notNegative⟩

theorem index?_number (c : Count) : c.number.index? = some c.toNat := by
  obtain ⟨n, hIndex, -⟩ := c.exists_index?
  rwa [toNat, Number.toNat_of_index? hIndex]

theorem toNat_le (c : Count) : c.toNat ≤ maxSafe := by
  obtain ⟨n, hIndex, hLimit⟩ := c.exists_index?
  rwa [toNat, Number.toNat_of_index? hIndex]

end Count

namespace Json.Value

def IsSafeNatural (v : Value) (n : Nat) : Prop := ∃ x, v = .number x ∧ x.index? = some n ∧ n ≤ maxSafe

def IsComposite : Value → Prop
  | array _ => True
  | object _ => True
  | _ => False

end Json.Value

namespace Layout

open Json (Value)

/-- The value is a layout of these natural numbers. -/
def Holds (v : Value) (s : Strided Nat) : Prop := ∀ f, (v.field f.name).IsSafeNatural (s.get f)

/-- The first field in order that holds no safe natural number. -/
def FirstFlaw (v : Value) (f : Field) : Prop :=
  (∀ n, ¬ (v.field f.name).IsSafeNatural n) ∧
    ∀ g : Field, g.position < f.position → ∃ n, (v.field g.name).IsSafeNatural n

theorem readCount_eq_ok_iff {f : Field} {v : Value} {c : Count} :
    readCount f v = .ok c ↔ v = .number c.number := by
  constructor
  · intro h
    unfold readCount at h
    split at h
    · split at h
      · split at h
        · cases h
          rfl
        · cases h
      · cases h
    · cases h
  · rintro rfl
    simp only [readCount, dif_pos c.isSafe, dif_pos c.notNegative]

theorem exists_readCount_iff {f : Field} {v : Value} :
    (∃ c, readCount f v = .ok c) ↔ ∃ n, v.IsSafeNatural n := by
  constructor
  · rintro ⟨c, h⟩
    exact ⟨c.toNat, c.number, readCount_eq_ok_iff.mp h, c.index?_number, c.toNat_le⟩
  · rintro ⟨n, x, rfl, hIndex, hLimit⟩
    obtain ⟨hSafe, hSign⟩ := Number.safe_not_negative_iff.mpr ⟨n, hIndex, hLimit⟩
    exact ⟨⟨x, hSafe, hSign⟩, readCount_eq_ok_iff.mpr rfl⟩

theorem readCount_error {f : Field} {v : Value} {e : Error} (h : readCount f v = .error e) :
    if v.isTellable then e.field? = some f else e = .untold := by
  have hOther : if v.isTellable then (Error.ofField f v).field? = some f
      else Error.ofField f v = .untold := by
    unfold Error.ofField
    split <;> simp_all [Error.field?]
  unfold readCount at h
  split at h
  · split at h
    · split at h
      · cases h
      · cases h
        exact rfl
    · cases h
      exact hOther
  · cases h
    exact hOther

theorem ofValue_of_isComposite {v : Value} (h : v.IsComposite) :
    ofValue v = Strided.ofFieldsM fun f => readCount f (v.field f.name) := by
  cases v with
  | array items => rfl
  | object fields => rfl
  | _ => exact h.elim

theorem ofValue_of_not_isComposite {v : Value} (h : ¬ v.IsComposite) : ofValue v = .error .missing := by
  cases v with
  | array items => exact absurd trivial h
  | object fields => exact absurd trivial h
  | _ => rfl

theorem isComposite_of_field {v u : Value} {key : String} (h : v.field key = u) (hPresent : u ≠ .absent) :
    v.IsComposite := by
  cases v with
  | array items => trivial
  | object fields => trivial
  | _ => exact absurd h.symm hPresent

theorem isComposite_of_isSafeNatural {v : Value} {f : Field} {n : Nat}
    (h : (v.field f.name).IsSafeNatural n) : v.IsComposite := by
  obtain ⟨x, hx, -⟩ := h
  exact isComposite_of_field hx Value.noConfusion

theorem ofValue_eq_ok_iff {v : Value} {l : Layout} :
    ofValue v = .ok l ↔ ∀ f : Field, v.field f.name = .number (l.get f).number := by
  by_cases h : v.IsComposite
  · rw [ofValue_of_isComposite h, Strided.ofFieldsM_eq_ok_iff]
    exact forall_congr' fun f => readCount_eq_ok_iff
  · rw [ofValue_of_not_isComposite h]
    refine ⟨fun hOk => (by cases hOk), fun hFields => absurd ?_ h⟩
    exact isComposite_of_field (hFields .initialSkip) Value.noConfusion

def naturals (l : Layout) : Strided Nat := l.map Count.toNat

theorem get_naturals (l : Layout) (f : Field) : l.naturals.get f = (l.get f).toNat := by
  cases f <;> rfl

theorem holds_naturals {v : Value} {l : Layout} (h : ofValue v = .ok l) : Holds v l.naturals := by
  intro f
  rw [get_naturals]
  exact ⟨_, ofValue_eq_ok_iff.mp h f, (l.get f).index?_number, (l.get f).toNat_le⟩

theorem get_injective {α : Type} {s t : Strided α} (h : ∀ f, s.get f = t.get f) : s = t := by
  cases s
  cases t
  have h0 := h .initialSkip
  have h1 := h .chunkSize
  have h2 := h .iterations
  have h3 := h .substride
  have h4 := h .superstride
  simp only [Strided.get] at h0 h1 h2 h3 h4
  rw [h0, h1, h2, h3, h4]

theorem Holds.unique {v : Value} {s t : Strided Nat} (hs : Holds v s) (ht : Holds v t) : s = t := by
  refine get_injective fun f => ?_
  obtain ⟨x, hx, hIndexX, -⟩ := hs f
  obtain ⟨y, hy, hIndexY, -⟩ := ht f
  rw [hx] at hy
  obtain rfl := Value.number.inj hy
  rw [hIndexX] at hIndexY
  exact Option.some.inj hIndexY

theorem exists_ofValue_iff {v : Value} : (∃ l, ofValue v = .ok l) ↔ ∃ s, Holds v s := by
  constructor
  · rintro ⟨l, h⟩
    exact ⟨_, holds_naturals h⟩
  · rintro ⟨s, h⟩
    have hRead : ∀ f : Field, ∃ c, readCount f (v.field f.name) = .ok c := fun f =>
      exists_readCount_iff.mpr ⟨_, h f⟩
    choose c hc using hRead
    refine ⟨⟨c .initialSkip, c .chunkSize, c .iterations, c .substride, c .superstride⟩, ?_⟩
    rw [ofValue_of_isComposite (isComposite_of_isSafeNatural (h .initialSkip)),
      Strided.ofFieldsM_eq_ok_iff]
    intro f
    cases f <;> exact hc _

theorem ofValue_error {v : Value} {e : Error} (h : ofValue v = .error e) :
    (¬ v.IsComposite ∧ e = .missing) ∨ (v.IsComposite ∧ ∃ f, FirstFlaw v f ∧
      if (v.field f.name).isTellable then e.field? = some f else e = .untold) := by
  by_cases hComposite : v.IsComposite
  · right
    rw [ofValue_of_isComposite hComposite, Strided.ofFieldsM_eq_error_iff] at h
    obtain ⟨f, hFail, hBefore⟩ := h
    refine ⟨hComposite, f, ⟨fun n hn => ?_, fun g hg => ?_⟩, readCount_error hFail⟩
    · obtain ⟨c, hc⟩ := exists_readCount_iff.mpr ⟨n, hn⟩
      rw [hc] at hFail
      cases hFail
    · exact exists_readCount_iff.mp (hBefore g hg)
  · left
    rw [ofValue_of_not_isComposite hComposite] at h
    exact ⟨hComposite, (Except.error.inj h).symm⟩

end Layout

end CubeSlice
