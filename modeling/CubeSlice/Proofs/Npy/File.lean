import CubeSlice.Proofs.Npy.Dictionary
import CubeSlice.Proofs.Number.Bits
import CubeSlice.Proofs.Number.Text
import CubeSlice.Number.Natural
import CubeSlice.Slice.Npy

/-!
# Reading array files

A reader for version 1.0 of the array format, given without the writer: it cuts a file at the length
that stands in front of the header line, reads the dictionary in that line, and takes the elements from
the bytes behind it, all of which have to be used up. Reading what a slice is written as gives back its
element type, its two dimensions and the bits of every element, whichever words the machine has for
not-a-number.
-/

namespace CubeSlice

def ofLittleEndian : List UInt8 → Nat
  | [] => 0
  | b :: bs => b.toNat + 256 * ofLittleEndian bs

theorem length_littleEndian (count n : Nat) : (littleEndian count n).length = count := by
  induction count generalizing n with
  | zero => rfl
  | succ count ih => simp [littleEndian, ih]

theorem ofLittleEndian_littleEndian {count n : Nat} (h : n < 256 ^ count) :
    ofLittleEndian (littleEndian count n) = n := by
  induction count generalizing n with
  | zero =>
    obtain rfl : n = 0 := by simpa using h
    rfl
  | succ count ih =>
    have hRest : n / 256 < 256 ^ count := by
      rw [Nat.pow_succ] at h
      exact Nat.div_lt_of_lt_mul (by omega)
    have hByte : (UInt8.ofNat (n % 256)).toNat = n % 256 := by
      rw [UInt8.toNat_ofNat']
      omega
    rw [littleEndian, ofLittleEndian, hByte, ih hRest]
    omega

namespace Npy

/-- The header line and the elements of a file. -/
def cut? : List UInt8 → Option (List UInt8 × List UInt8)
  | 0x93 :: 0x4E :: 0x55 :: 0x4D :: 0x50 :: 0x59 :: 1 :: 0 :: low :: high :: rest =>
    let length := ofLittleEndian [low, high]
    if length ≤ rest.length then some (rest.take length, rest.drop length) else none
  | _ => none

/-- A header line is in ASCII, ends with a line feed and leaves the elements at a multiple of 64. -/
structure IsHeaderLine (line : List UInt8) : Prop where
  ascii : ∀ b ∈ line, b.toNat < 128
  ending : line.getLast? = some 10
  aligned : (10 + line.length) % 64 = 0

theorem isHeaderLine_iff {line : List UInt8} : IsHeaderLine line ↔
    line.all (fun b => b.toNat < 128) = true ∧ line.getLast? = some 10 ∧ (10 + line.length) % 64 = 0 := by
  rw [List.all_eq_true]
  constructor
  · intro h
    exact ⟨fun b hb => decide_eq_true (h.ascii b hb), h.ending, h.aligned⟩
  · rintro ⟨hAscii, hEnding, hAligned⟩
    exact ⟨fun b hb => of_decide_eq_true (hAscii b hb), hEnding, hAligned⟩

instance (line : List UInt8) : Decidable (IsHeaderLine line) := decidable_of_iff' _ isHeaderLine_iff

def dtype? (description : List Char) : Option DType :=
  if description = "<f8".toList then some .double
  else if description = "<f4".toList then some .single
  else none

/-- As many words of the given width as are asked for, and nothing behind them. -/
def words? (width : Nat) : Nat → List UInt8 → Option (List Nat)
  | 0, bytes => if bytes = [] then some [] else none
  | count + 1, bytes =>
    if width ≤ bytes.length then
      (words? width count (bytes.drop width)).map (ofLittleEndian (bytes.take width) :: ·)
    else
      none

/-- What a file tells: the type of its elements, their order, its dimensions and the bits of its
elements. -/
structure Document where
  dtype : DType
  fortranOrder : Bool
  shape : List Nat
  words : List Nat

def width : DType → Nat
  | .double => 8
  | .single => 4

def read? (bytes : List UInt8) : Option Document := do
  let (line, data) ← cut? bytes
  if IsHeaderLine line then
    let header ← header? (line.map fun b => Char.ofNat b.toNat)
    let dtype ← dtype? header.description
    let words ← words? (width dtype) (header.shape.foldl (· * ·) 1) data
    return ⟨dtype, header.fortranOrder, header.shape, words⟩
  else
    none

def quietBits : DType → Nat
  | .double => 0x7FF8000000000000
  | .single => 0x7FC00000

theorem nanWord_quiet (d : DType) (i : Nat) : Slice.Npy.Machine.quiet.nanWord d i = quietBits d := by
  have hBits : d.format.quietBits = quietBits d := by
    cases d <;> decide +kernel
  exact hBits

theorem byteCount_eq (d : DType) : d.format.byteCount = width d := by
  cases d <;> rfl

theorem words?_flatMap {α : Type} {w : Nat} {xs : List α} {bits : α → Nat} (h : ∀ x ∈ xs, bits x < 256 ^ w) :
    words? w xs.length (xs.flatMap fun x => littleEndian w (bits x)) = some (xs.map bits) := by
  induction xs with
  | nil => rfl
  | cons x xs ih =>
    have hLength := length_littleEndian w (bits x)
    have hFirst := ofLittleEndian_littleEndian (h x List.mem_cons_self)
    have hEnough : w ≤ (littleEndian w (bits x) ++ xs.flatMap fun x => littleEndian w (bits x)).length := by
      rw [List.length_append, hLength]
      exact Nat.le_add_right _ _
    rw [List.flatMap_cons, List.length_cons, words?, if_pos hEnough, List.drop_left' hLength,
      List.take_left' hLength, hFirst, ih fun y hy => h y (List.mem_cons_of_mem x hy)]
    rfl

theorem length_flatMap_littleEndian {α : Type} (w : Nat) (xs : List α) (bits : α → Nat) :
    (xs.flatMap fun x => littleEndian w (bits x)).length = xs.length * w := by
  induction xs with
  | nil => simp
  | cons x xs ih =>
    rw [List.flatMap_cons, List.length_append, length_littleEndian, ih, List.length_cons, Nat.succ_mul,
      Nat.add_comm]

section HeaderLine

open Slice.Npy

variable (m : Machine) (s : Slice)

def blanks : Nat := padding (dictionary s).length

theorem toList_dictionary : (dictionary s).toList = opening ++ (description s.dtype).toList ++ order ++
    Nat.toDigits 10 s.rows ++ comma ++ Nat.toDigits 10 s.cols ++ closing := by
  have hParts (a b c d e f g : String) : (a ++ b ++ c ++ d ++ e ++ f ++ g).toList =
      a.toList ++ b.toList ++ c.toList ++ d.toList ++ e.toList ++ f.toList ++ g.toList := by
    simp only [String.toList_append]
  have hTexts : (dictionary s).toList = _ := hParts _ _ _ _ _ _ _
  rw [toList_toString s.rows, toList_toString s.cols] at hTexts
  exact hTexts

theorem toList_header : (header s).toList =
    headerLine (description s.dtype).toList s.rows s.cols (blanks s) := by
  have hBlanks : (String.ofList (List.replicate (blanks s) ' ')).toList = List.replicate (blanks s) ' ' :=
    String.toList_ofList
  rw [header, String.toList_append, String.toList_append, toList_dictionary, ← blanks, hBlanks]
  simp only [headerLine, List.append_assoc]
  rfl

theorem length_toDigits_le {n : Nat} (h : n ≤ maxSafe) : (Nat.toDigits 10 n).length ≤ 16 := by
  apply (Nat.length_toDigits_le_iff (by decide) (by decide)).mpr
  rw [Number.maxSafe_eq] at h
  omega

theorem length_header : (header s).toList.length = (dictionary s).length + blanks s + 1 := by
  simp only [header, blanks, String.toList_append, String.toList_ofList, List.length_append,
    List.length_replicate, String.length_toList]
  rfl

theorem length_header_lt : (header s).toList.length < 256 ^ 2 := by
  have hRows := length_toDigits_le s.rows_le_maxSafe
  have hCols := length_toDigits_le s.cols_le_maxSafe
  have hBlanks : blanks s < alignment := Nat.mod_lt _ (by decide)
  have hDescription : (description s.dtype).toList.length = 3 := by
    cases s.dtype <;> rfl
  have hOpening : opening.length = 11 := by decide
  have hOrder : order.length = 37 := by decide
  have hComma : comma.length = 2 := by decide
  have hClosing : closing.length = 4 := by decide
  rw [toList_header]
  simp only [headerLine, List.length_append, List.length_replicate, List.length_singleton, hDescription,
    hOpening, hOrder, hComma, hClosing]
  unfold alignment at hBlanks
  omega

theorem length_header_aligned : (10 + (header s).toList.length) % 64 = 0 := by
  rw [length_header]
  simp only [blanks, padding, preamble, alignment]
  omega

theorem isAscii_of_isDigit {c : Char} (h : c.isDigit = true) : c.toNat < 128 := by
  have hUpper : c.val ≤ '9'.val := (by simpa [Char.isDigit] using h : _ ∧ _).2
  exact Nat.lt_of_le_of_lt (UInt32.le_iff_toNat_le.mp hUpper) (by decide)

theorem header_ascii : ∀ c ∈ (header s).toList, c.toNat < 128 := by
  have hPlain {l : List Char} (h : l.all (fun c => c.toNat < 128) = true) : ∀ c ∈ l, c.toNat < 128 :=
    fun c hc => of_decide_eq_true (List.all_eq_true.mp h c hc)
  have hDigits (n : Nat) : ∀ c ∈ Nat.toDigits 10 n, c.toNat < 128 := fun c hc =>
    isAscii_of_isDigit (Nat.isDigit_of_mem_toDigits (by decide) (by decide) hc)
  rw [toList_header]
  intro c hc
  simp only [headerLine, List.mem_append, List.mem_replicate, List.mem_singleton] at hc
  rcases hc with hc | hc | hc | hc | hc | hc | hc | ⟨-, rfl⟩ | rfl
  · exact hPlain (l := opening) rfl c hc
  · refine hPlain ?_ c hc
    cases s.dtype <;> rfl
  · exact hPlain (l := order) rfl c hc
  · exact hDigits _ c hc
  · exact hPlain (l := comma) rfl c hc
  · exact hDigits _ c hc
  · exact hPlain (l := closing) rfl c hc
  · decide
  · decide

theorem ofNat_toNat_ofNat {c : Char} (h : c.toNat < 128) : Char.ofNat (UInt8.ofNat c.toNat).toNat = c := by
  have hByte : (UInt8.ofNat c.toNat).toNat = c.toNat := by
    rw [UInt8.toNat_ofNat']
    omega
  rw [hByte, Char.ofNat_toNat]

def line : List UInt8 := (header s).toList.map fun c => UInt8.ofNat c.toNat

/-- The word of an element, given its offset. -/
def word (e : Number × Nat) : Nat := e.1.toBits s.dtype.format (m.nanWord s.dtype e.2)

def data : List UInt8 := s.toList.zipIdx.flatMap fun e => littleEndian (width s.dtype) (word m s e)

def words : List Nat := s.toList.zipIdx.map (word m s)

theorem length_line : (line s).length = (header s).toList.length := List.length_map _

theorem isHeaderLine_line : IsHeaderLine (line s) where
  ascii := by
    intro b hb
    obtain ⟨c, hc, rfl⟩ := List.mem_map.mp hb
    have hAscii := header_ascii s c hc
    rw [UInt8.toNat_ofNat']
    omega
  ending := by
    simp only [line, header, String.toList_append, List.map_append]
    rw [List.getLast?_append]
    rfl
  aligned := by
    rw [length_line]
    exact length_header_aligned s

theorem header?_line : header? ((line s).map fun b => Char.ofNat b.toNat) =
    some ⟨(description s.dtype).toList, false, [s.rows, s.cols]⟩ := by
  have hChars : (line s).map (fun b => Char.ofNat b.toNat) = (header s).toList := by
    rw [line, List.map_map]
    calc
      _ = (header s).toList.map id := List.map_congr_left fun c hc => ofNat_toNat_ofNat (header_ascii s c hc)
      _ = (header s).toList := List.map_id _
  have hPlain : '\'' ∉ (description s.dtype).toList := by
    cases s.dtype <;> decide
  rw [hChars, toList_header, header?_headerLine hPlain]

theorem dtype?_description (d : DType) : dtype? (description d).toList = some d := by
  cases d <;> rfl

theorem rounded_of_mem {x : Number} (h : x ∈ s.toList) : s.dtype.round x = x := by
  obtain ⟨i, hi, rfl⟩ := List.mem_iff_getElem.mp h
  exact s.data.rounded i hi

theorem words?_data : words? (width s.dtype) (s.rows * s.cols) (data m s) = some (words m s) := by
  have hLength : s.toList.zipIdx.length = s.rows * s.cols := List.length_zipIdx.trans s.size_eq
  rw [← hLength]
  apply words?_flatMap
  intro e he
  have hMem : e.1 ∈ s.toList := List.fst_mem_of_mem_zipIdx he
  rw [← byteCount_eq]
  exact Number.toBits_lt (m.isNaNWord s.dtype e.2) (rounded_of_mem s hMem)

theorem bytes_eq : bytes m s = [0x93, 0x4E, 0x55, 0x4D, 0x50, 0x59, 1, 0] ++
    littleEndian 2 (line s).length ++ line s ++ data m s := by
  rw [bytes, length_line, data, line, ← byteCount_eq]
  rfl

theorem ofLittleEndian_length_line : ofLittleEndian (littleEndian 2 (line s).length) = (line s).length := by
  apply ofLittleEndian_littleEndian
  rw [length_line]
  exact length_header_lt s

theorem cut?_bytes : cut? (bytes m s) = some (line s, data m s) := by
  have hLength := ofLittleEndian_length_line s
  have hField (n : Nat) : littleEndian 2 n = [UInt8.ofNat (n % 256), UInt8.ofNat (n / 256 % 256)] := rfl
  have hEnough : (line s).length ≤ (line s ++ data m s).length := by
    rw [List.length_append]
    exact Nat.le_add_right _ _
  rw [hField] at hLength
  rw [bytes_eq, hField]
  simp only [List.cons_append, List.nil_append, cut?, hLength, if_pos hEnough, List.take_left, List.drop_left]

theorem read?_bytes_eq : read? (bytes m s) = some ⟨s.dtype, false, [s.rows, s.cols], words m s⟩ := by
  have hCount : [s.rows, s.cols].foldl (· * ·) 1 = s.rows * s.cols := by
    simp
  simp only [read?, cut?_bytes, Option.bind_eq_bind, Option.bind_some, if_pos (isHeaderLine_line s),
    header?_line, dtype?_description, hCount, words?_data]
  rfl

theorem getElem?_words {i j : Nat} (hi : i < s.rows) (hj : j < s.cols) :
    (words m s)[i * s.cols + j]? = some (word m s (s.get i j hi hj, i * s.cols + j)) := by
  have hOffset : i * s.cols + j < s.data.cells.size :=
    Nat.lt_of_lt_of_eq (s.extent.offset_lt hi hj) s.size_eq.symm
  rw [words, List.getElem?_map, List.getElem?_zipIdx, Slice.toList, Array.getElem?_toList,
    Array.getElem?_eq_getElem hOffset, Nat.zero_add]
  rfl

end HeaderLine

/-- The file in which a slice is written: magic text, version and length of the header line, which fits
its two bytes, then the header line, then the elements and nothing else. Read, it tells the element
type, the two dimensions and, row by row, bits that stand for the elements: for those that are
not-a-number, and only for them, a word for that, which is the quiet one if the machine writes it. -/
theorem read?_bytes (m : Slice.Npy.Machine) (s : Slice) : ∃ line data words,
    Slice.Npy.bytes m s =
      [0x93, 0x4E, 0x55, 0x4D, 0x50, 0x59, 1, 0] ++ littleEndian 2 line.length ++ line ++ data ∧
    ofLittleEndian (littleEndian 2 line.length) = line.length ∧ IsHeaderLine line ∧
    data.length = s.rows * s.cols * width s.dtype ∧ words.length = s.rows * s.cols ∧
    read? (Slice.Npy.bytes m s) = some ⟨s.dtype, false, [s.rows, s.cols], words⟩ ∧
    (∀ i < s.rows, ∀ j < s.cols, ∃ word x, words[i * s.cols + j]? = some word ∧
      s.at? (Number.ofNat i) (Number.ofNat j) = .ok x ∧ Number.ofBits s.dtype.format word = x ∧
      (s.dtype.format.IsNaNWord word ↔ x = .nan) ∧
      (x = .nan → word = m.nanWord s.dtype (i * s.cols + j))) ∧
    ∀ d i, Slice.Npy.Machine.quiet.nanWord d i = quietBits d := by
  have hCount : s.toList.zipIdx.length = s.rows * s.cols := List.length_zipIdx.trans s.size_eq
  refine ⟨line s, data m s, words m s, bytes_eq m s, ofLittleEndian_length_line s, isHeaderLine_line s, ?_, ?_,
    read?_bytes_eq m s, ?_, nanWord_quiet⟩
  · rw [data, length_flatMap_littleEndian, hCount]
  · rw [words, List.length_map, hCount]
  · intro i hi j hj
    have hRounded : s.dtype.round (s.get i j hi hj) = s.get i j hi hj := s.data.rounded _ _
    have hNaN := m.isNaNWord s.dtype (i * s.cols + j)
    have hRead := Number.ofBits_toBits hNaN hRounded
    have hWord (h : s.get i j hi hj = .nan) :
        word m s (s.get i j hi hj, i * s.cols + j) = m.nanWord s.dtype (i * s.cols + j) := by
      rw [h]
      rfl
    refine ⟨_, _, getElem?_words m s hi hj, s.at?_ofNat hi hj, hRead, ⟨?_, ?_⟩, hWord⟩
    · intro hIsNaN
      exact hRead.symm.trans (Number.ofBits_of_isNaNWord hIsNaN)
    · intro h
      rw [hWord h]
      exact hNaN

end Npy

end CubeSlice
