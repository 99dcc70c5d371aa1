import CubeSlice.Proofs.Number.Reading
import CubeSlice.Proofs.Slice.Json
import CubeSlice.Slice.Csv

/-!
# Slices read back from CSV

No text of a number has a comma or a line feed in it. So cutting the text of a slice at line feeds gives its rows,
cutting a row at commas gives its elements, and each of them reads as the number that it is, a zero without its sign.
-/

namespace CubeSlice

namespace Number

/-- A text that can stand in a field: there is something, and nothing that would end the field. -/
structure IsField (field : List Char) : Prop where
  ne_nil : field ≠ []
  comma : ',' ∉ field
  lineFeed : '\n' ∉ field

theorem isField_text (x : Number) : IsField x.text.toList := by
  cases x with
  | nan => exact ⟨by decide, by decide, by decide⟩
  | infinite negative => cases negative <;> exact ⟨by decide, by decide, by decide⟩
  | finite s n held =>
    have hLiteral {c : Char} (hc : c ∈ (finite s n held).text.toList) := isLiteralChar_of_mem_text s held hc
    constructor
    · intro hNone
      have hRead := ofLiteral?_text s held
      rw [hNone] at hRead
      cases hRead
    · intro hComma
      exact absurd (hLiteral hComma) (by decide)
    · intro hLine
      exact absurd (hLiteral hLine) (by decide)

end Number

namespace Slice

def lineOf (row : List Number) : List Char := [','].intercalate (row.map fun x => x.text.toList)

theorem toList_csvLine (row : List Number) : (csvLine row).toList = lineOf row ++ ['\n'] := by
  rw [csvLine, String.toList_append, String.toList_intercalate, List.map_map]
  rfl

theorem splitOn_lineOf {row : List Number} (h : row ≠ []) :
    (lineOf row).splitOn ',' = row.map fun x => x.text.toList := by
  apply List.splitOn_intercalate
  · intro field hField
    obtain ⟨x, -, rfl⟩ := List.mem_map.mp hField
    exact x.isField_text.comma
  · simpa using h

theorem lineFeed_not_mem_lineOf (row : List Number) : '\n' ∉ lineOf row := by
  induction row with
  | nil => simp [lineOf]
  | cons x row ih =>
    cases row with
    | nil => simpa [lineOf] using x.isField_text.lineFeed
    | cons y row =>
      have hLine : lineOf (x :: y :: row) = x.text.toList ++ ',' :: lineOf (y :: row) := by
        simp [lineOf, List.intercalate]
      rw [hLine, List.mem_append, List.mem_cons]
      rintro (hField | hComma | hRest)
      · exact x.isField_text.lineFeed hField
      · exact absurd hComma (by decide)
      · exact ih hRest

theorem splitOn_closed {lines : List (List Char)} (h : ∀ line ∈ lines, '\n' ∉ line) :
    (lines.flatMap (· ++ ['\n'])).splitOn '\n' = lines ++ [[]] := by
  induction lines with
  | nil => rfl
  | cons line rest ih =>
    have hRest := ih fun l hl => h l (List.mem_cons_of_mem _ hl)
    rw [List.flatMap_cons, List.append_assoc, List.singleton_append,
      List.splitOn_append_cons_self_of_not_mem (h line List.mem_cons_self), hRest]
    rfl

variable (s : Slice)

def csvLines : List (List Char) := s.toRows.map lineOf

theorem toList_toCsv : s.toCsv.toList = s.csvLines.flatMap (· ++ ['\n']) := by
  rw [toCsv, String.toList_join, csvLines, List.flatMap_map, List.flatMap_map]
  simp only [toList_csvLine]

theorem splitOn_toCsv : s.toCsv.toList.splitOn '\n' = s.csvLines ++ [[]] := by
  rw [toList_toCsv]
  apply splitOn_closed
  intro line hLine
  obtain ⟨row, -, rfl⟩ := List.mem_map.mp hLine
  exact lineFeed_not_mem_lineOf row

theorem csvLines_ne_nil : s.csvLines ≠ [] := by
  have hRows : 0 < s.rows := s.extent.rows_pos
  rw [csvLines, ne_eq, List.map_eq_nil_iff, ← List.length_eq_zero_iff, s.length_toRows]
  omega

theorem getLast?_toCsv : s.toCsv.toList.getLast? = some '\n' := by
  obtain ⟨front, last, hLines⟩ : ∃ front last, s.csvLines = front ++ [last] :=
    ⟨_, _, (List.dropLast_append_getLast s.csvLines_ne_nil).symm⟩
  rw [toList_toCsv, hLines, List.flatMap_append, List.flatMap_singleton, ← List.append_assoc, List.getLast?_concat]

/-- A line that tells row `i`: one field for each column, and each of them reads as its element. -/
structure TellsRow (i : Nat) (line : List Char) : Prop where
  length_eq : (line.splitOn ',').length = s.cols
  field : ∀ j < s.cols, ∃ x field, s.at? (.ofNat i) (.ofNat j) = .ok x ∧ (line.splitOn ',')[j]? = some field ∧
    field ≠ [] ∧ Number.ofText field = x.asWritten

/-- Lines that tell the rows of a slice in their order. -/
structure TellsRows (lines : List (List Char)) : Prop where
  length_eq : lines.length = s.rows
  line : ∀ i < s.rows, ∃ line, lines[i]? = some line ∧ s.TellsRow i line

theorem tellsRow_lineOf {i : Nat} (hi : i < s.rows) : s.TellsRow i (lineOf (s.rowValues i)) := by
  have hLength := s.length_rowValues hi
  have hSome : s.rowValues i ≠ [] := by
    have hCols : 0 < s.cols := s.extent.cols_pos
    rw [ne_eq, ← List.length_eq_zero_iff, hLength]
    omega
  constructor
  · rw [splitOn_lineOf hSome, List.length_map, hLength]
  · intro j hj
    have hElement := s.getElem?_rowValues hi hj
    refine ⟨_, (s.get i j hi hj).text.toList, s.at?_ofNat hi hj, ?_, (Number.isField_text _).ne_nil,
      Number.ofText_text _⟩
    rw [splitOn_lineOf hSome, List.getElem?_map, hElement]
    rfl

theorem tellsRows_csvLines : s.TellsRows s.csvLines := by
  constructor
  · rw [csvLines, List.length_map, s.length_toRows]
  · intro i hi
    refine ⟨_, ?_, s.tellsRow_lineOf hi⟩
    rw [csvLines, List.getElem?_map, s.getElem?_toRows hi]
    rfl

variable {s}

theorem TellsRow.element {t : Slice} {i j : Nat} {line : List Char} (hs : s.TellsRow i line) (ht : t.TellsRow i line)
    (hj : j < s.cols) (hj' : j < t.cols) : ∃ x y, s.at? (.ofNat i) (.ofNat j) = .ok x ∧
      t.at? (.ofNat i) (.ofNat j) = .ok y ∧ x.EqUpToSign y := by
  obtain ⟨x, field, hx, hField, -, hRead⟩ := hs.field j hj
  obtain ⟨y, field', hy, hField', -, hRead'⟩ := ht.field j hj'
  rw [hField, Option.some.injEq] at hField'
  subst hField'
  exact ⟨x, y, hx, hy, .of_asWritten_eq (hRead.symm.trans hRead')⟩

theorem TellsRows.alike {t : Slice} {lines : List (List Char)} (hs : s.TellsRows lines) (ht : t.TellsRows lines) :
    s.Alike t := by
  have hRows : s.rows = t.rows := hs.length_eq.symm.trans ht.length_eq
  have hLine (i : Nat) (hi : i < s.rows) : ∃ line, s.TellsRow i line ∧ t.TellsRow i line := by
    obtain ⟨line, hGet, hTells⟩ := hs.line i hi
    obtain ⟨line', hGet', hTells'⟩ := ht.line i (hRows ▸ hi)
    rw [hGet, Option.some.injEq] at hGet'
    subst hGet'
    exact ⟨line, hTells, hTells'⟩
  have hCols : s.cols = t.cols := by
    obtain ⟨line, hTells, hTells'⟩ := hLine 0 s.extent.rows_pos
    exact hTells.length_eq.symm.trans hTells'.length_eq
  refine ⟨Extent.eq_of_dimensions hRows hCols, fun i hi j hj => ?_⟩
  obtain ⟨line, hTells, hTells'⟩ := hLine i hi
  exact hTells.element hTells' hj (hCols ▸ hj)

theorem toCsv_eq_of_alike {t : Slice} (h : s.Alike t) : s.toCsv = t.toCsv := by
  have hTexts := h.map_toRows fun _ _ => Number.EqUpToSign.text_eq
  have hLines := congrArg (List.map fun texts => ",".intercalate texts ++ "\n") hTexts
  rw [List.map_map, List.map_map] at hLines
  exact congrArg String.join hLines

/-- The text of a slice ends with a line feed. Its lines are the rows, and the fields of a line read as the elements
of the row. So slices share a text just when they have the same shape and elements, up to the signs of zeros. -/
theorem read_toCsv (s : Slice) :
    s.toCsv.toList.getLast? = some '\n' ∧
    (∃ lines, s.toCsv.toList.splitOn '\n' = lines ++ [[]] ∧ s.TellsRows lines) ∧
    ∀ t : Slice, s.toCsv = t.toCsv ↔ s.Alike t := by
  refine ⟨s.getLast?_toCsv, ⟨_, s.splitOn_toCsv, s.tellsRows_csvLines⟩, fun t => ⟨fun hText => ?_, toCsv_eq_of_alike⟩⟩
  have hSplit := s.splitOn_toCsv
  rw [hText, t.splitOn_toCsv, List.append_cancel_right_eq] at hSplit
  exact (hSplit ▸ s.tellsRows_csvLines).alike t.tellsRows_csvLines

end Slice

end CubeSlice
