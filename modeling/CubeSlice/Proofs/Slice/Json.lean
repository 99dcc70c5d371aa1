import CubeSlice.Proofs.Json.Ordered
import CubeSlice.Proofs.Slice.Elements
import CubeSlice.Slice.Json

/-!
# Slices read back from JSON

The text of a slice is an object with the shape and the rows, and nothing else. Its entries are the elements, but
those that are not finite have become null, and the zeros are alike.
-/

namespace CubeSlice

namespace Number

def isFinite : Number → Bool
  | finite .. => true
  | _ => false

/-- How an element reads back from the text of its slice. -/
inductive ReadsBackAs : Number → Json.Value → Prop where
  | nonzero {negative : Bool} {n : Nat} {held : Format.binary64.Holds n} (hn : n ≠ 0) :
    ReadsBackAs (finite negative n held) (.number (finite negative n held))
  | zero {negative : Bool} {held : Format.binary64.Holds 0} : ReadsBackAs (finite negative 0 held) (.number .zero)
  | nan : ReadsBackAs .nan .null
  | infinite {negative : Bool} : ReadsBackAs (infinite negative) .null

theorem readsBackAs_ofNumberText (x : Number) : x.ReadsBackAs (Json.ofNumberText x) := by
  cases x with
  | nan => exact .nan
  | infinite negative => exact .infinite
  | finite negative n held =>
    rw [Json.ofNumberText]
    rcases Nat.eq_zero_or_pos n with rfl | hPos
    · exact .zero
    · have hn := Nat.ne_of_gt hPos
      rw [asWritten_of_ne_zero negative held hn]
      exact .nonzero hn

theorem ReadsBackAs.eqUpToSign {x y : Number} {v : Json.Value} (hx : x.ReadsBackAs v) (hy : y.ReadsBackAs v)
    (hFinite : x.isFinite = true) : x.EqUpToSign y := by
  cases hx with
  | nonzero hn =>
    cases hy with
    | nonzero => exact .inl rfl
    | zero => exact absurd rfl hn
  | zero =>
    cases hy with
    | nonzero hn => exact absurd rfl hn
    | zero => exact .inr ⟨rfl, rfl⟩
  | nan => cases hFinite
  | infinite => cases hFinite

theorem ofNumberText_of_isZero {x : Number} (h : x.isZero = true) : Json.ofNumberText x = .number .zero := by
  cases x with
  | nan => cases h
  | infinite negative => cases h
  | finite negative n held => rw [Json.ofNumberText, asWritten, if_pos h]

theorem EqUpToSign.ofNumberText_eq {x y : Number} (h : x.EqUpToSign y) :
    Json.ofNumberText x = Json.ofNumberText y := by
  rcases h with rfl | ⟨hx, hy⟩
  · rfl
  · rw [ofNumberText_of_isZero hx, ofNumberText_of_isZero hy]

attribute [local irreducible] unitsInOne in
theorem ofNumberText_ofNat {n : Nat} (h : n ≤ maxSafe) : Json.ofNumberText (ofNat n) = .number (ofNat n) := by
  have hHeld := holds_natural (le_exactLimit h)
  have hFinite : ofNat n = .finite false (n * unitsInOne) hHeld := ofUnits_of_holds false hHeld
  have hZero : unitsInOne ≠ 0 := Nat.ne_of_gt unitsInOne_pos
  rw [hFinite, Json.ofNumberText]
  rcases Nat.eq_zero_or_pos n with rfl | hPos
  · have hUnits : 0 * unitsInOne = 0 := Nat.zero_mul _
    simp only [asWritten, isZero, hUnits, beq_self_eq_true, if_true, zero]
  · rw [asWritten_of_ne_zero false hHeld (Nat.mul_ne_zero (Nat.ne_of_gt hPos) hZero)]

end Number

theorem Extent.eq_of_dimensions {e e' : Extent} (hRows : e.rows = e'.rows) (hCols : e.cols = e'.cols) : e = e' := by
  cases e
  cases e'
  cases hRows
  cases hCols
  rfl

namespace Slice

open Json (Value)

variable (s : Slice)

/-- What the text of a slice tells. -/
def told : Value :=
  .object [
    ("shape", .array [.number (.ofNat s.rows), .number (.ofNat s.cols)]),
    ("data", .array (s.toRows.map fun row => .array (row.map Json.ofNumberText)))]

theorem readBack_rows (rows : List (List Number)) :
    Value.readBack (.array (rows.map fun row => .array (row.map .number))) =
      .array (rows.map fun row => .array (row.map Json.ofNumberText)) := by
  rw [Value.readBack, Json.readBackItems_eq_map, List.map_map]
  simp only [Function.comp_def, Value.readBack, Json.readBackItems_eq_map, List.map_map]

theorem ofEntries_shape_data (shape data : Value) :
    Value.ofEntries [("shape", shape), ("data", data)] = .object [("shape", shape), ("data", data)] := by
  have hKeys : ["shape", "data"].Pairwise Json.Fields.Precedes := by decide
  exact congrArg Value.object (Json.Fields.ofEntries_of_pairwise hKeys)

theorem readBack_toValue : s.toValue.readBack = s.told := by
  have hRows := Number.ofNumberText_ofNat s.rows_le_maxSafe
  have hCols := Number.ofNumberText_ofNat s.cols_le_maxSafe
  have hShape : Value.readBack (.array (s.shape.map .number)) =
      .array [.number (.ofNat s.rows), .number (.ofNat s.cols)] := by
    rw [Value.readBack, Json.readBackItems_eq_map, shape, Extent.shape]
    simp only [List.map_cons, List.map_nil, Value.readBack]
    rw [← rows, ← cols, hRows, hCols]
  rw [toValue, Value.readBack, told, ← ofEntries_shape_data, ← readBack_rows, ← hShape]
  rfl

structure Tells (data : List Value) : Prop where
  length_eq : data.length = s.rows
  row : ∀ i < s.rows, ∃ entries, data[i]? = some (.array entries) ∧ entries.length = s.cols ∧
    ∀ j < s.cols, ∃ x entry, s.at? (.ofNat i) (.ofNat j) = .ok x ∧ entries[j]? = some entry ∧ x.ReadsBackAs entry

theorem tells_told : s.Tells (s.toRows.map fun row => .array (row.map Json.ofNumberText)) where
  length_eq := by rw [List.length_map, s.length_toRows]
  row := by
    intro i hi
    refine ⟨(s.rowValues i).map Json.ofNumberText, ?_, ?_, ?_⟩
    · rw [List.getElem?_map, s.getElem?_toRows hi]
      rfl
    · rw [List.length_map, s.length_rowValues hi]
    · intro j hj
      refine ⟨_, _, s.at?_ofNat hi hj, ?_, (s.get i j hi hj).readsBackAs_ofNumberText⟩
      rw [List.getElem?_map, s.getElem?_rowValues hi hj]
      rfl

theorem write_ofNumberText (text : String) (x : Number) :
    Value.write text (Json.ofNumberText x) = Value.write text (.number x) := by
  cases x with
  | nan => rfl
  | infinite negative => rfl
  | finite negative n held =>
    rw [Json.ofNumberText]
    rcases Nat.eq_zero_or_pos n with rfl | hPos
    · have hText : (Number.finite negative 0 held).text = Number.zero.text := by
        rw [← String.toList_inj, Number.text_zero, Number.zero, Number.text_zero]
      rw [Number.asWritten_zero, Value.write, Value.write, Json.numberText, Number.zero, Json.numberText, hText,
        Number.zero]
    · rw [Number.asWritten_of_ne_zero negative held (Nat.ne_of_gt hPos)]

theorem writeItems_map_congr {α : Type} (f g : α → Value) (items : List α) (text : String) (first : Bool)
    (h : ∀ text, ∀ a ∈ items, Value.write text (f a) = Value.write text (g a)) :
    Value.writeItems text first (items.map f) = Value.writeItems text first (items.map g) := by
  induction items generalizing text first with
  | nil => rfl
  | cons a rest ih =>
    rw [List.map_cons, List.map_cons, Value.writeItems, Value.writeItems, h _ a List.mem_cons_self,
      ih _ _ fun text b hb => h text b (List.mem_cons_of_mem a hb)]

theorem print_told : s.told.print = s.toJson := by
  have hRow (text : String) (row : List Number) :
      Value.write text (.array (row.map Json.ofNumberText)) = Value.write text (.array (row.map .number)) := by
    rw [Value.write, Value.write, writeItems_map_congr _ _ _ _ _ fun text x _ => write_ofNumberText text x]
  have hData (text : String) :
      Value.write text (.array (s.toRows.map fun row => .array (row.map Json.ofNumberText))) =
        Value.write text (.array (s.toRows.map fun row => .array (row.map .number))) := by
    rw [Value.write, Value.write, writeItems_map_congr _ _ _ _ _ fun text row _ => hRow text row]
  rw [toJson, Value.print, Value.print, told, toValue, Value.write, Value.write]
  simp only [Value.writeFields, hData]
  rfl

theorem read_toJson_eq : Json.read s.toJson = .ok s.told := by
  rw [toJson, Json.read_print, readBack_toValue]

def IsFinite : Prop := ∀ x ∈ s.toList, x.isFinite = true

theorem mem_toList_of_at? {i j : Nat} {x : Number} (h : s.at? (.ofNat i) (.ofNat j) = .ok x) (hi : i < s.rows)
    (hj : j < s.cols) : x ∈ s.toList := by
  rw [s.at?_ofNat hi hj, Except.ok.injEq] at h
  rw [← h]
  exact Array.mem_toList_iff.mpr (Array.getElem_mem _)

structure Alike (s t : Slice) : Prop where
  extent_eq : s.extent = t.extent
  element : ∀ i < s.rows, ∀ j < s.cols, ∃ x y, s.at? (.ofNat i) (.ofNat j) = .ok x ∧
    t.at? (.ofNat i) (.ofNat j) = .ok y ∧ x.EqUpToSign y

theorem alike_of_told_eq {s t : Slice} (h : s.told = t.told) (hFinite : s.IsFinite) : s.Alike t := by
  have hs := s.tells_told
  have ht := t.tells_told
  simp only [told, Value.object.injEq, List.cons.injEq, Prod.mk.injEq, Value.array.injEq, Value.number.injEq,
    true_and, and_true] at h
  obtain ⟨⟨hRows, hCols⟩, hData⟩ := h
  rw [← hData] at ht
  have hNatural {m n : Nat} (hm : m ≤ maxSafe) (hn : n ≤ maxSafe) (hEq : Number.ofNat m = .ofNat n) : m = n := by
    have hIndex := Number.index?_ofNat (Number.le_exactLimit hm)
    rw [hEq, Number.index?_ofNat (Number.le_exactLimit hn), Option.some.injEq] at hIndex
    exact hIndex.symm
  have hRows := hNatural s.rows_le_maxSafe t.rows_le_maxSafe hRows
  have hCols := hNatural s.cols_le_maxSafe t.cols_le_maxSafe hCols
  refine ⟨Extent.eq_of_dimensions hRows hCols, fun i hi j hj => ?_⟩
  obtain ⟨entries, hEntries, -, hElements⟩ := hs.row i hi
  obtain ⟨entries', hEntries', -, hElements'⟩ := ht.row i (hRows ▸ hi)
  rw [hEntries, Option.some.injEq, Value.array.injEq] at hEntries'
  subst hEntries'
  obtain ⟨x, entry, hx, hEntry, hReads⟩ := hElements j hj
  obtain ⟨y, entry', hy, hEntry', hReads'⟩ := hElements' j (hCols ▸ hj)
  rw [hEntry, Option.some.injEq] at hEntry'
  subst hEntry'
  exact ⟨x, y, hx, hy, hReads.eqUpToSign hReads' (hFinite x (s.mem_toList_of_at? hx hi hj))⟩

theorem Alike.map_toRows {s t : Slice} (h : s.Alike t) {β : Type} {f : Number → β}
    (hf : ∀ x y : Number, x.EqUpToSign y → f x = f y) : s.toRows.map (List.map f) = t.toRows.map (List.map f) := by
  have hRows : s.rows = t.rows := congrArg Extent.rows h.extent_eq
  have hCols : s.cols = t.cols := congrArg Extent.cols h.extent_eq
  have hRow (i : Nat) (hi : i < s.rows) : (s.rowValues i).map f = (t.rowValues i).map f := by
    have hi' := hRows ▸ hi
    apply List.ext_getElem?
    intro j
    by_cases hj : j < s.cols
    · have hj' := hCols ▸ hj
      obtain ⟨x, y, hx, hy, hAlike⟩ := h.element i hi j hj
      rw [s.at?_ofNat hi hj, Except.ok.injEq] at hx
      rw [t.at?_ofNat hi' hj', Except.ok.injEq] at hy
      rw [List.getElem?_map, List.getElem?_map, s.getElem?_rowValues hi hj, t.getElem?_rowValues hi' hj', hx, hy]
      exact congrArg some (hf x y hAlike)
    · rw [List.getElem?_eq_none, List.getElem?_eq_none]
      · rw [List.length_map, t.length_rowValues hi', ← hCols]
        exact Nat.le_of_not_lt hj
      · rw [List.length_map, s.length_rowValues hi]
        exact Nat.le_of_not_lt hj
  rw [toRows, toRows, List.map_map, List.map_map, ← hRows]
  exact List.map_congr_left fun i hi => hRow i (List.mem_range.mp hi)

theorem told_eq_of_alike {s t : Slice} (h : s.Alike t) : s.told = t.told := by
  have hRows : s.rows = t.rows := congrArg Extent.rows h.extent_eq
  have hCols : s.cols = t.cols := congrArg Extent.cols h.extent_eq
  have hTold := congrArg (List.map Value.array) (h.map_toRows fun _ _ => Number.EqUpToSign.ofNumberText_eq)
  rw [List.map_map, List.map_map] at hTold
  rw [told, told, hRows, hCols]
  exact congrArg (fun data => Value.object [("shape", _), ("data", .array data)]) hTold

/-- The text of a slice reads back as its shape and, row by row, its elements. So a slice of finite elements shares
its text with the slices of the same shape and elements, up to the signs of zeros, and with no others. -/
theorem read_toJson (s : Slice) :
    (∃ data, s.Tells data ∧ Json.read s.toJson = .ok (.object [
      ("shape", .array [.number (.ofNat s.rows), .number (.ofNat s.cols)]), ("data", .array data)])) ∧
    ∀ t : Slice, s.IsFinite → (s.toJson = t.toJson ↔ s.Alike t) := by
  refine ⟨⟨_, s.tells_told, s.read_toJson_eq⟩, fun t hs => ⟨fun hText => ?_, fun hAlike => ?_⟩⟩
  · have hTold := s.read_toJson_eq
    rw [hText, t.read_toJson_eq, Except.ok.injEq] at hTold
    exact alike_of_told_eq hTold.symm hs
  · rw [← s.print_told, ← t.print_told, told_eq_of_alike hAlike]

/-- Two rows of three elements, the second of which is a zero of either sign. -/
def sixElements (negative : Bool) : Slice where
  extent := ⟨2, 3, by decide, by decide, by decide⟩
  dtype := .double
  data := Buffer.ofArray .double
    #[.ofNat 1, if negative then .negativeZero else .zero, .ofNat 2, .ofNat 3, .ofNat 4, .ofNat 5]
  size_eq := by simp [Extent.size]

theorem read_toJson_sixElements : (sixElements true).IsFinite ∧ (sixElements true).Alike (sixElements false) ∧
    (∃ data, (sixElements true).Tells data ∧ Json.read (sixElements true).toJson = .ok (.object [
      ("shape", .array [.number (.ofNat 2), .number (.ofNat 3)]), ("data", .array data)])) ∧
    (sixElements true).toJson = (sixElements false).toJson ∧
    (sixElements true).toJson = "\x7b\"shape\":[2,3],\"data\":[[1,0,2],[3,4,5]]\x7d" := by
  have hFinite : (sixElements true).IsFinite := by
    unfold IsFinite
    decide +kernel
  have hSame : ∀ (i : Fin 2) (j : Fin 3), ((sixElements true).get i j i.isLt j.isLt).EqUpToSign
      ((sixElements false).get i j i.isLt j.isLt) := by
    unfold Number.EqUpToSign
    decide +kernel
  have hAlike : (sixElements true).Alike (sixElements false) := by
    refine ⟨rfl, fun i hi j hj => ?_⟩
    have hRow : i < (sixElements false).rows := hi
    have hColumn : j < (sixElements false).cols := hj
    exact ⟨_, _, at?_ofNat _ hi hj, at?_ofNat _ hRow hColumn, hSame ⟨i, hi⟩ ⟨j, hj⟩⟩
  have hRows : (sixElements true).rows = 2 := rfl
  have hCols : (sixElements true).cols = 3 := rfl
  obtain ⟨hRead, hShares⟩ := read_toJson (sixElements true)
  rw [hRows, hCols] at hRead
  exact ⟨hFinite, hAlike, hRead, (hShares _ hFinite).mpr hAlike, by decide +kernel⟩

end Slice

end CubeSlice
