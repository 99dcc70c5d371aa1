import Mathlib.Data.List.Forall2
import Mathlib.Data.Option.Basic
import CubeSlice.Number.Shortest
import CubeSlice.Url.Join

/-!
# Reading addresses back

An address falls into its segments at the slashes, for no slash is left in an encoded segment, and decoding the
percent triples of a segment gives back its text. Slashes at the end of a base cannot be seen.
-/

namespace CubeSlice.Url

inductive IsPlain (c : Char) : Prop
  | upper (low : 'A' ≤ c) (high : c ≤ 'Z')
  | lower (low : 'a' ≤ c) (high : c ≤ 'z')
  | digit (low : '0' ≤ c) (high : c ≤ '9')
  | mark (mem : c ∈ ['-', '_', '.', '!', '~', '*', '\'', '(', ')'])

inductive IsUpperHex (c : Char) : Prop
  | digit (low : '0' ≤ c) (high : c ≤ '9')
  | letter (low : 'A' ≤ c) (high : c ≤ 'F')

/-- A text of plain characters and of triples, a percent sign and two hexadecimal digits in upper case. -/
inductive IsEncoded : List Char → Prop
  | nil : IsEncoded []
  | plain {c : Char} {rest : List Char} (plain : IsPlain c) (encoded : IsEncoded rest) : IsEncoded (c :: rest)
  | triple {high low : Char} {rest : List Char} (highHex : IsUpperHex high) (lowHex : IsUpperHex low)
      (encoded : IsEncoded rest) : IsEncoded ('%' :: high :: low :: rest)

def hexValue? (c : Char) : Option Nat :=
  if '0' ≤ c ∧ c ≤ '9' then some (c.toNat - '0'.toNat)
  else if 'A' ≤ c ∧ c ≤ 'F' then some (c.toNat - 'A'.toNat + 10)
  else if 'a' ≤ c ∧ c ≤ 'f' then some (c.toNat - 'a'.toNat + 10)
  else none

/-- The bytes that a text stands for: a triple is one byte, and every other character its own UTF-8 form. -/
def percentBytes? : List Char → Option (List UInt8)
  | [] => some []
  | c :: rest =>
    if c = '%' then
      match rest with
      | high :: low :: rest => do
        let h ← hexValue? high
        let l ← hexValue? low
        let bytes ← percentBytes? rest
        return UInt8.ofNat (16 * h + l) :: bytes
      | _ => none
    else (percentBytes? rest).map (String.utf8EncodeChar c ++ ·)

def percentDecode? (text : List Char) : Option String := do
  let bytes ← percentBytes? text
  String.fromUTF8? bytes.toByteArray

theorem isPlain_of_isAlphanum {c : Char} (h : c.isAlphanum = true) : IsPlain c := by
  have hRange {p q : Prop} [Decidable p] [Decidable q] (h : (decide p && decide q) = true) : p ∧ q := by
    rwa [Bool.and_eq_true, decide_eq_true_eq, decide_eq_true_eq] at h
  rcases Bool.or_eq_true_iff.mp h with hAlpha | hDigit
  · rcases Bool.or_eq_true_iff.mp hAlpha with hUpper | hLower
    · have hUpper : 'A' ≤ c ∧ c ≤ 'Z' := of_decide_eq_true hUpper
      exact .upper hUpper.1 hUpper.2
    · exact .lower (hRange hLower).1 (hRange hLower).2
  · exact .digit (hRange hDigit).1 (hRange hDigit).2

theorem isPlain_of_isUnreserved {c : Char} (h : isUnreserved c = true) : IsPlain c := by
  simp only [isUnreserved, Bool.or_eq_true, beq_iff_eq] at h
  rcases h with ((((((((h | h) | h) | h) | h) | h) | h) | h) | h) | h
  · exact isPlain_of_isAlphanum h
  all_goals
    rw [h]
    exact .mark (by decide)

theorem hexDigit_spec (n : Nat) : IsUpperHex (hexDigit n) ∧ hexValue? (hexDigit n) = some (n % 16) := by
  have hTable : ∀ k < 16, ('0' ≤ (Nat.digitChar k).toUpper ∧ (Nat.digitChar k).toUpper ≤ '9' ∨
      'A' ≤ (Nat.digitChar k).toUpper ∧ (Nat.digitChar k).toUpper ≤ 'F') ∧
      hexValue? (Nat.digitChar k).toUpper = some k := by decide
  obtain ⟨hRange, hValue⟩ := hTable (n % 16) (Nat.mod_lt n (by decide))
  exact ⟨hRange.elim (fun h => .digit h.1 h.2) fun h => .letter h.1 h.2, hValue⟩

theorem ne_percent_of_isUnreserved {c : Char} (h : isUnreserved c = true) : c ≠ '%' := by
  rintro rfl
  revert h
  decide

theorem percentBytes?_plain {c : Char} (h : c ≠ '%') (rest : List Char) :
    percentBytes? (c :: rest) = (percentBytes? rest).map (String.utf8EncodeChar c ++ ·) :=
  (percentBytes?.eq_def (c :: rest)).trans (if_neg h)

theorem percentBytes?_encodeByte (b : UInt8) (rest : List Char) :
    percentBytes? (encodeByte b ++ rest) = (percentBytes? rest).map ([b] ++ ·) := by
  have hByte : UInt8.ofNat (16 * (b.toNat / 16 % 16) + b.toNat % 16) = b := by
    have hRange := b.toNat_lt
    rw [(by omega : 16 * (b.toNat / 16 % 16) + b.toNat % 16 = b.toNat), UInt8.ofNat_toNat]
  show percentBytes? ('%' :: hexDigit (b.toNat / 16) :: hexDigit b.toNat :: rest) = _
  rw [percentBytes?, if_pos rfl]
  simp only [(hexDigit_spec _).2, Option.bind_eq_bind, Option.bind_some, hByte]
  cases percentBytes? rest <;> rfl

theorem percentBytes?_flatMap_encodeByte (bytes : List UInt8) (rest : List Char) :
    percentBytes? (bytes.flatMap encodeByte ++ rest) = (percentBytes? rest).map (bytes ++ ·) := by
  induction bytes with
  | nil =>
    rw [List.flatMap_nil, List.nil_append]
    cases percentBytes? rest <;> rfl
  | cons b bytes ih =>
    rw [List.flatMap_cons, List.append_assoc, percentBytes?_encodeByte, ih, Option.map_map]
    rfl

theorem percentBytes?_encodeChar (c : Char) (rest : List Char) :
    percentBytes? (encodeChar c ++ rest) = (percentBytes? rest).map (String.utf8EncodeChar c ++ ·) := by
  unfold encodeChar
  split
  · rename_i hPlain
    exact percentBytes?_plain (ne_percent_of_isUnreserved hPlain) rest
  · exact percentBytes?_flatMap_encodeByte _ rest

theorem percentBytes?_flatMap_encodeChar (cs : List Char) :
    percentBytes? (cs.flatMap encodeChar) = some (cs.flatMap String.utf8EncodeChar) := by
  induction cs with
  | nil => rfl
  | cons c cs ih => rw [List.flatMap_cons, percentBytes?_encodeChar, ih, Option.map_some, List.flatMap_cons]

theorem percentDecode?_encodeSegment (s : String) : percentDecode? (encodeSegment s) = some s := by
  have hBytes : (s.toList.flatMap String.utf8EncodeChar).toByteArray = s.toByteArray := String.utf8Encode_toList
  rw [percentDecode?, encodeSegment, percentBytes?_flatMap_encodeChar, Option.bind_eq_bind, Option.bind_some, hBytes,
    String.fromUTF8?, dif_pos s.isValidUTF8]
  rfl

theorem IsEncoded.append {cs ds : List Char} (h : IsEncoded cs) (h' : IsEncoded ds) : IsEncoded (cs ++ ds) := by
  induction h with
  | nil => exact h'
  | plain hPlain _ ih => exact .plain hPlain ih
  | triple hHigh hLow _ ih => exact .triple hHigh hLow ih

theorem IsEncoded.flatMap {α : Type} {f : α → List Char} (h : ∀ a, IsEncoded (f a)) (l : List α) :
    IsEncoded (l.flatMap f) := by
  induction l with
  | nil => exact .nil
  | cons a l ih => exact (h a).append ih

theorem isEncoded_encodeByte (b : UInt8) : IsEncoded (encodeByte b) :=
  .triple (hexDigit_spec _).1 (hexDigit_spec _).1 .nil

theorem isEncoded_encodeChar (c : Char) : IsEncoded (encodeChar c) := by
  unfold encodeChar
  split
  · rename_i hPlain
    exact .plain (isPlain_of_isUnreserved hPlain) .nil
  · exact .flatMap isEncoded_encodeByte _

theorem isEncoded_encodeSegment (s : String) : IsEncoded (encodeSegment s) := .flatMap isEncoded_encodeChar _

/-- Characters that may stand in a segment without ending it. -/
structure IsInert (c : Char) : Prop where
  ascii : c.toNat < 128
  notSlash : c ≠ '/'
  notQuestion : c ≠ '?'
  notHash : c ≠ '#'
  notSpace : c ≠ ' '

theorem isInert_of_range {c low high : Char} (hLow : low ≤ c) (hHigh : c ≤ high) (hAscii : high.toNat < 128)
    (hMarks : ('/' < low ∨ high < '/') ∧ ('?' < low ∨ high < '?') ∧ ('#' < low ∨ high < '#') ∧
      (' ' < low ∨ high < ' ')) : IsInert c := by
  have hOutside {m : Char} (h : m < low ∨ high < m) : c ≠ m := by
    rintro rfl
    exact h.elim (Char.not_lt.mpr hLow) (Char.not_lt.mpr hHigh)
  obtain ⟨hSlash, hQuestion, hHash, hSpace⟩ := hMarks
  exact ⟨Nat.lt_of_le_of_lt hHigh hAscii, hOutside hSlash, hOutside hQuestion, hOutside hHash, hOutside hSpace⟩

theorem IsPlain.isInert {c : Char} (h : IsPlain c) : IsInert c := by
  cases h with
  | upper hLow hHigh => exact isInert_of_range hLow hHigh (by decide) (by decide)
  | lower hLow hHigh => exact isInert_of_range hLow hHigh (by decide) (by decide)
  | digit hLow hHigh => exact isInert_of_range hLow hHigh (by decide) (by decide)
  | mark mem =>
    simp only [List.mem_cons, List.not_mem_nil, or_false] at mem
    rcases mem with rfl | rfl | rfl | rfl | rfl | rfl | rfl | rfl | rfl <;>
      exact ⟨by decide, by decide, by decide, by decide, by decide⟩

theorem IsUpperHex.isInert {c : Char} (h : IsUpperHex c) : IsInert c := by
  cases h with
  | digit hLow hHigh => exact isInert_of_range hLow hHigh (by decide) (by decide)
  | letter hLow hHigh => exact isInert_of_range hLow hHigh (by decide) (by decide)

theorem IsEncoded.isInert {cs : List Char} (h : IsEncoded cs) : ∀ c ∈ cs, IsInert c := by
  induction h with
  | nil => exact List.forall_mem_nil _
  | plain hPlain _ ih => exact List.forall_mem_cons.mpr ⟨hPlain.isInert, ih⟩
  | triple hHigh hLow _ ih =>
    simp only [List.forall_mem_cons]
    exact ⟨⟨by decide, by decide, by decide, by decide, by decide⟩, hHigh.isInert, hLow.isInert, ih⟩

theorem exists_trimSlashes (base : String) : ∃ k, base.toList = trimSlashes base ++ List.replicate k '/' := by
  refine ⟨(base.toList.reverse.takeWhile (· == '/')).length, ?_⟩
  have hSlashes : base.toList.reverse.takeWhile (· == '/') =
      List.replicate (base.toList.reverse.takeWhile (· == '/')).length '/' :=
    List.eq_replicate_of_mem fun c hc => eq_of_beq (List.all_eq_true.mp List.all_takeWhile c hc)
  have hSplit := List.takeWhile_append_dropWhile (p := (· == '/')) (l := base.toList.reverse)
  rw [trimSlashes, ← List.reverse_replicate, ← hSlashes, ← List.reverse_append, hSplit, List.reverse_reverse]

theorem getLast?_trimSlashes (base : String) : (trimSlashes base).getLast? ≠ some '/' := by
  intro hLast
  have hHead := List.head?_dropWhile_not (· == '/') base.toList.reverse
  rw [trimSlashes, List.getLast?_reverse] at hLast
  rw [hLast] at hHead
  cases hHead

theorem trimSlashes_append (cs : List Char) (n : Nat) :
    trimSlashes (String.ofList (cs ++ List.replicate n '/')) = trimSlashes (String.ofList cs) := by
  rw [trimSlashes, trimSlashes, String.toList_ofList, String.toList_ofList, List.reverse_append,
    List.reverse_replicate, List.dropWhile_append_of_pos]
  exact fun c hc => beq_of_eq (List.eq_of_mem_replicate hc)

theorem join_congr {base base' : String} (h : trimSlashes base = trimSlashes base') (segments : List String) :
    join base segments = join base' segments := by
  unfold join
  rw [h]

theorem join_cons (base first : String) (rest : List String) :
    join base (first :: rest) =
      String.ofList (trimSlashes base ++ ((first :: rest).map encodeSegment).flatMap ('/' :: ·)) := by
  rw [List.flatMap_map]
  rfl

theorem flatMap_cons_eq_intercalate {α : Type} (a : α) (first : List α) (rest : List (List α)) :
    (first :: rest).flatMap (a :: ·) = a :: [a].intercalate (first :: rest) := by
  induction rest generalizing first with
  | nil => rw [List.flatMap_singleton, List.intercalate_singleton]
  | cons second rest ih =>
    rw [List.flatMap_cons, ih, List.intercalate_cons_cons, List.cons_append, List.append_assoc, List.singleton_append]

/-- The texts of the segments that stand behind the first `n` characters of an address. -/
def readSegments (n : Nat) (address : String) : List (Option String) :=
  ((address.toList.drop (n + 1)).splitOn '/').map percentDecode?

theorem readSegments_join (base first : String) (rest : List String) :
    readSegments (trimSlashes base).length (join base (first :: rest)) = (first :: rest).map some := by
  have hInert : ∀ e ∈ (first :: rest).map encodeSegment, '/' ∉ e := by
    intro e he hSlash
    obtain ⟨s, -, rfl⟩ := List.mem_map.mp he
    exact ((isEncoded_encodeSegment s).isInert '/' hSlash).notSlash rfl
  have hRest : (join base (first :: rest)).toList.drop ((trimSlashes base).length + 1) =
      ['/'].intercalate ((first :: rest).map encodeSegment) := by
    rw [join_cons, String.toList_ofList, List.drop_length_add_append, List.map_cons, flatMap_cons_eq_intercalate,
      List.drop_succ_cons, List.drop_zero]
  rw [readSegments, hRest, List.splitOn_intercalate '/' hInert (by simp), List.map_map]
  exact List.map_congr_left fun s _ => percentDecode?_encodeSegment s

theorem join_inj {base first first' : String} {rest rest' : List String} :
    join base (first :: rest) = join base (first' :: rest') ↔ first :: rest = first' :: rest' := by
  refine ⟨fun h => ?_, fun h => by rw [h]⟩
  have hRead := readSegments_join base first rest
  rw [h, readSegments_join base first' rest'] at hRead
  exact (List.map_injective_iff.mpr (Option.some_injective String) hRead).symm

inductive Segment where
  | text (s : String)
  | number (x : Number)

def Segment.toText : Segment → String
  | text s => s
  | number x => x.text

/-- The characters stand for the text and can end neither a segment nor an address. -/
structure Encodes (e : List Char) (s : String) : Prop where
  encoded : IsEncoded e
  inert : ∀ c ∈ e, IsInert c
  decodes : percentDecode? e = some s

theorem encodes_encodeSegment (s : String) : Encodes (encodeSegment s) s :=
  ⟨isEncoded_encodeSegment s, (isEncoded_encodeSegment s).isInert, percentDecode?_encodeSegment s⟩

/-- An address is its base without the slashes at the end, and an encoded text behind a slash for each segment.
The segments can be read back, so that addresses tell them apart, and slashes at the end of a base change nothing. -/
theorem join_reversible (base : String) :
    ∃ B k, base.toList = B ++ List.replicate k '/' ∧ B.getLast? ≠ some '/' ∧
      join base [] = String.ofList (B ++ ['/']) ∧
      (∀ (first : Segment) (rest : List Segment), ∃ encoded : List (List Char),
        List.Forall₂ (fun e s => Encodes e (Segment.toText s)) encoded (first :: rest) ∧
        join base ((first :: rest).map Segment.toText) = String.ofList (B ++ encoded.flatMap ('/' :: ·)) ∧
        readSegments B.length (join base ((first :: rest).map Segment.toText)) =
          (first :: rest).map fun s => some s.toText) ∧
      (∀ (first first' : Segment) (rest rest' : List Segment),
        join base ((first :: rest).map Segment.toText) = join base ((first' :: rest').map Segment.toText) ↔
          (first :: rest).map Segment.toText = (first' :: rest').map Segment.toText) ∧
      ∀ (n : Nat) (segments : List String),
        join (String.ofList (B ++ List.replicate n '/')) segments = join base segments := by
  obtain ⟨k, hBase⟩ := exists_trimSlashes base
  refine ⟨trimSlashes base, k, hBase, getLast?_trimSlashes base, rfl, fun first rest => ?_,
    fun first first' rest rest' => join_inj, fun n => join_congr ?_⟩
  · refine ⟨((first :: rest).map Segment.toText).map encodeSegment, ?_, join_cons base _ _, ?_⟩
    · rw [List.map_map, List.forall₂_map_left_iff, List.forall₂_same]
      exact fun s _ => encodes_encodeSegment s.toText
    · rw [List.map_cons, readSegments_join, ← List.map_cons, List.map_map]
      rfl
  · have hTrim := trimSlashes_append (trimSlashes base) k
    rw [← hBase, String.ofList_toList] at hTrim
    exact (trimSlashes_append _ n).trans hTrim.symm

end CubeSlice.Url
