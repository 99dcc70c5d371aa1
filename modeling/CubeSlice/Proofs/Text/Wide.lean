import CubeSlice.Text.Wide

/-!
# Parts of wide texts

A text is the units of its parts, one behind the other, so that nothing is lost where it is taken apart into characters
and single halves. The parts of a text without single halves are its characters.
-/

namespace CubeSlice.WideText

theorem isHigh_iff {u : UInt16} : isHigh u = true ↔ 0xD800 ≤ u.toNat ∧ u.toNat < 0xDC00 := by
  simp [isHigh]

theorem isLow_iff {u : UInt16} : isLow u = true ↔ 0xDC00 ≤ u.toNat ∧ u.toNat < 0xE000 := by
  simp [isLow]

theorem eq_ofNat {u : UInt16} {n : Nat} (h : n = u.toNat) : UInt16.ofNat n = u := by
  rw [h, UInt16.ofNat_toNat]

theorem toNat_ofNat_of_isValidChar {n : Nat} (h : n.isValidChar) : (Char.ofNat n).toNat = n := by
  rw [Char.ofNat, dif_pos h]
  exact UInt32.toNat_ofNatLT

namespace Scalar

variable {u v : UInt16} {parts : List Scalar} {c : Char}

theorem push_of_not_isHigh (h : isHigh u = false) : push u parts = ofUnit u :: parts := by
  unfold push
  split
  · rw [h, Bool.false_and, if_neg Bool.false_ne_true]
  · rfl

theorem push_pair (hHigh : isHigh u = true) (hLow : isLow v = true) :
    push u (half v :: parts) = char (pair u v) :: parts := by
  rw [push, hHigh, hLow]
  rfl

theorem ofUnit_of_isLow (h : isLow u = true) : ofUnit u = half u := by
  rw [ofUnit, h, Bool.or_true]
  rfl

theorem toNat_pair (hHigh : isHigh u = true) (hLow : isLow v = true) :
    (pair u v).toNat = 0x10000 + (u.toNat - 0xD800) * 0x400 + (v.toNat - 0xDC00) := by
  rw [isHigh_iff] at hHigh
  rw [isLow_iff] at hLow
  apply toNat_ofNat_of_isValidChar
  right
  omega

theorem charUnits_pair (hHigh : isHigh u = true) (hLow : isLow v = true) : charUnits (pair u v) = [u, v] := by
  have hCode := toNat_pair hHigh hLow
  rw [isHigh_iff] at hHigh
  rw [isLow_iff] at hLow
  have hWide : ¬ (pair u v).toNat < 0x10000 := by omega
  rw [charUnits, if_neg hWide, eq_ofNat (u := u) (by omega), eq_ofNat (u := v) (by omega)]

theorem units_ofUnit (u : UInt16) : (ofUnit u).units = [u] := by
  unfold ofUnit
  split
  · rfl
  · rename_i hPlain
    rw [Bool.or_eq_true, isHigh_iff, isLow_iff] at hPlain
    have hSize := u.toNat_lt
    have hCode : (Char.ofNat u.toNat).toNat = u.toNat := by
      apply toNat_ofNat_of_isValidChar
      unfold Nat.isValidChar
      omega
    have hNarrow : (Char.ofNat u.toNat).toNat < 0x10000 := by omega
    rw [units, charUnits, if_pos hNarrow, eq_ofNat hCode]

theorem flatMap_units_push (u : UInt16) (parts : List Scalar) :
    (push u parts).flatMap units = u :: parts.flatMap units := by
  unfold push
  split
  · split
    · rename_i hBoth
      rw [Bool.and_eq_true] at hBoth
      rw [List.flatMap_cons, units, charUnits_pair hBoth.1 hBoth.2]
      rfl
    · rw [List.flatMap_cons, units_ofUnit]
      rfl
  · rw [List.flatMap_cons, units_ofUnit]
    rfl

theorem foldr_push_charUnits (c : Char) (parts : List Scalar) : (charUnits c).foldr push parts = char c :: parts := by
  have hValid : c.toNat < 0xD800 ∨ 0xDFFF < c.toNat ∧ c.toNat < 0x110000 := c.valid
  unfold charUnits
  split
  · rename_i hNarrow
    have hCode : (UInt16.ofNat c.toNat).toNat = c.toNat := UInt16.toNat_ofNat_of_lt' hNarrow
    have hHigh : isHigh (UInt16.ofNat c.toNat) = false := by
      rw [← Bool.not_eq_true, isHigh_iff]
      omega
    have hLow : isLow (UInt16.ofNat c.toNat) = false := by
      rw [← Bool.not_eq_true, isLow_iff]
      omega
    rw [List.foldr_cons, List.foldr_nil, push_of_not_isHigh hHigh, ofUnit, hHigh, hLow, hCode, Char.ofNat_toNat]
    rfl
  · have hSize : UInt16.size = 65536 := rfl
    have hFirst : (UInt16.ofNat (0xD7C0 + c.toNat / 0x400)).toNat = 0xD7C0 + c.toNat / 0x400 :=
      UInt16.toNat_ofNat_of_lt' (by omega)
    have hSecond : (UInt16.ofNat (0xDC00 + c.toNat % 0x400)).toNat = 0xDC00 + c.toNat % 0x400 :=
      UInt16.toNat_ofNat_of_lt' (by omega)
    have hHigh : isHigh (UInt16.ofNat (0xD7C0 + c.toNat / 0x400)) = true := isHigh_iff.mpr (by omega)
    have hLow : isLow (UInt16.ofNat (0xDC00 + c.toNat % 0x400)) = true := isLow_iff.mpr (by omega)
    have hNone : isHigh (UInt16.ofNat (0xDC00 + c.toNat % 0x400)) = false := by
      rw [← Bool.not_eq_true, isHigh_iff]
      omega
    have hPair : pair (UInt16.ofNat (0xD7C0 + c.toNat / 0x400)) (UInt16.ofNat (0xDC00 + c.toNat % 0x400)) = c := by
      rw [← Char.toNat_inj, toNat_pair hHigh hLow]
      omega
    rw [List.foldr_cons, List.foldr_cons, List.foldr_nil, push_of_not_isHigh hNone, ofUnit_of_isLow hLow,
      push_pair hHigh hLow, hPair]

end Scalar

theorem flatMap_units_scalars (t : WideText) : t.scalars.flatMap Scalar.units = t.units := by
  unfold scalars
  induction t.units with
  | nil => rfl
  | cons u rest ih => rw [List.foldr_cons, Scalar.flatMap_units_push, ih]

theorem scalars_ofString (s : String) : (ofString s).scalars = s.toList.map .char := by
  unfold scalars ofString
  induction s.toList with
  | nil => rfl
  | cons c rest ih => rw [List.flatMap_cons, List.foldr_append, ih, Scalar.foldr_push_charUnits, List.map_cons]

@[simp] theorem toText_ofString (s : String) : (ofString s).toText = s := by
  have hShown : Scalar.shown ∘ Scalar.char = id := rfl
  rw [toText, scalars_ofString, List.map_map, hShown, List.map_id, String.ofList_toList]

theorem ofString_injective : Function.Injective ofString := Function.LeftInverse.injective toText_ofString

@[simp] theorem ofString_inj {s s' : String} : ofString s = ofString s' ↔ s = s' := ofString_injective.eq_iff

theorem ofString_append (s s' : String) : ofString (s ++ s') = ofString s ++ ofString s' := by
  rw [ofString, String.toList_append, List.flatMap_append]
  rfl

theorem ofString_ne_empty {s : String} (h : s ≠ "") : (ofString s).units ≠ [] := by
  intro hNone
  exact h (ofString_injective (congrArg WideText.mk hNone))

theorem exists_units_intercalate (separator t : WideText) (ts : List WideText) :
    ∃ rest, (intercalate separator (t :: ts)).units = t.units ++ rest := by
  cases ts with
  | nil => exact ⟨[], by simp [intercalate, List.intercalate]⟩
  | cons u ts =>
    refine ⟨separator.units ++ separator.units.intercalate (u.units :: ts.map units), ?_⟩
    rw [intercalate, List.map_cons, List.map_cons, List.intercalate_cons_cons, List.append_assoc]

end CubeSlice.WideText
