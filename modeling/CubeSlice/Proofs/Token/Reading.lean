import CubeSlice.Proofs.Json.Ordered
import CubeSlice.Proofs.Token.Base64Url
import CubeSlice.Token.Bearer

/-!
# Reading tokens

A token falls into its segments at the dots, for no dot is a character of base64url. What a segment was made of comes
back by undoing the encodings one by one: base64url to bytes, bytes to a text, the text to a value.
-/

namespace CubeSlice.Token

theorem toList_loop (bytes : ByteArray) (i : Nat) (done : List UInt8) :
    ByteArray.toList.loop bytes i done = done.reverse ++ bytes.data.toList.drop i := by
  fun_induction ByteArray.toList.loop bytes i done with
  | case1 i done hi ih =>
    have hLength : i < bytes.data.toList.length := by simpa using hi
    have hGet : bytes.get! i = bytes.data.toList[i] := by
      show bytes.data[i]! = _
      rw [getElem!_pos bytes.data i hi, Array.getElem_toList]
    rw [ih, List.drop_eq_getElem_cons hLength, hGet, List.reverse_cons, List.append_assoc]
    rfl
  | case2 i done hi => rw [List.drop_eq_nil_of_le (by simpa using hi), List.append_nil]

theorem toByteArray_utf8 (s : String) : (utf8 s).toByteArray = s.toUTF8 := by
  have hBytes : utf8 s = s.toUTF8.data.toList := toList_loop s.toUTF8 0 []
  apply ByteArray.ext
  rw [← Array.toList_inj, List.toList_data_toByteArray, hBytes]

theorem fromUTF8?_utf8 (s : String) : String.fromUTF8? (utf8 s).toByteArray = some s := by
  rw [toByteArray_utf8, String.fromUTF8?, String.toUTF8_eq_toByteArray, dif_pos s.isValidUTF8]
  rfl

/-- The text that stands in a segment. -/
def textOf? (segment : String) : Option String := do
  let bytes ← Base64Url.decode? segment.toList
  String.fromUTF8? bytes.toByteArray

/-- The value that stands in a segment. -/
def valueOf? (segment : String) : Option Json.Value := do
  let text ← textOf? segment
  (Json.read text).toOption

structure IsSegment (s : String) : Prop where
  ne_empty : s ≠ ""
  urlSafe : ∀ c ∈ s.toList, Base64Url.isUrlSafe c = true

theorem isSegment_encode {bytes : List UInt8} (h : bytes ≠ []) :
    IsSegment (String.ofList (Base64Url.encode bytes)) where
  ne_empty := by
    rw [Ne, String.ofList_eq_empty_iff]
    exact Base64Url.encode_ne_nil h
  urlSafe := by
    rw [String.toList_ofList]
    exact fun c hc => Base64Url.isUrlSafe_of_mem_encode hc

theorem IsSegment.dot_notMem {s : String} (h : IsSegment s) : '.' ∉ s.toList := by
  intro hDot
  have hSafe : Base64Url.isUrlSafe '.' = true := h.urlSafe '.' hDot
  revert hSafe
  decide

theorem splitOn_dots {a b c : String} (ha : IsSegment a) (hb : IsSegment b) (hc : IsSegment c) :
    (a ++ "." ++ b ++ "." ++ c).toList.splitOn '.' = [a, b, c].map String.toList := by
  have hText : (a ++ "." ++ b ++ "." ++ c).toList = ['.'].intercalate [a.toList, b.toList, c.toList] := by
    simp [List.intercalate]
  rw [hText]
  apply List.splitOn_intercalate
  · simp only [List.forall_mem_cons]
    exact ⟨ha.dot_notMem, hb.dot_notMem, hc.dot_notMem, nofun⟩
  · exact List.cons_ne_nil _ _

theorem textOf?_segment (s : String) : textOf? (segment s) = some s := by
  rw [textOf?, segment, String.toList_ofList, Base64Url.decode?_encode]
  exact fromUTF8?_utf8 s

theorem valueOf?_segment {v : Json.Value} (h : v.InOrder) : valueOf? (segment v.print) = some v.pruned := by
  rw [valueOf?, textOf?_segment, Option.bind_eq_bind, Option.bind_some, h.read_print]
  rfl

theorem print_ne_empty (v : Json.Value) : v.print ≠ "" := by
  intro hEmpty
  have hRead := Json.read_print v
  rw [hEmpty] at hRead
  cases hRead

theorem isSegment_segment (v : Json.Value) : IsSegment (segment v.print) := by
  refine isSegment_encode fun hNone => print_ne_empty v ?_
  have hText := fromUTF8?_utf8 v.print
  rw [hNone] at hText
  exact (Option.some.inj hText).symm

variable (claims : Json.Value) (secret : String)

def digest : List UInt8 := Sha256.hmac (utf8 secret) (utf8 (signingInput claims))

theorem length_digest : (digest claims secret).length = 32 := Sha256.length_hmac _ _

def stamp : String := String.ofList (Base64Url.encode (digest claims secret))

theorem isSegment_stamp : IsSegment (stamp claims secret) :=
  isSegment_encode fun hNone => by
    have hLength := length_digest claims secret
    rw [hNone] at hLength
    cases hLength

theorem decode?_stamp : Base64Url.decode? (stamp claims secret).toList = some (digest claims secret) := by
  rw [stamp, String.toList_ofList, Base64Url.decode?_encode]

theorem sign_eq :
    sign claims secret = segment header.print ++ "." ++ segment claims.print ++ "." ++ stamp claims secret := rfl

theorem splitOn_sign :
    (sign claims secret).toList.splitOn '.' =
      [segment header.print, segment claims.print, stamp claims secret].map String.toList :=
  splitOn_dots (isSegment_segment header) (isSegment_segment claims) (isSegment_stamp claims secret)

theorem print_eq_of_sign_eq {claims claims' : Json.Value} {secret secret' : String}
    (h : sign claims secret = sign claims' secret') : claims.print = claims'.print := by
  -- The second segments are the same, and a segment holds one text.
  have hSplit := splitOn_sign claims secret
  rw [h, splitOn_sign claims' secret'] at hSplit
  simp only [List.map_cons, List.map_nil, List.cons.injEq, String.toList_inj] at hSplit
  have hText := textOf?_segment claims.print
  rw [← hSplit.2.1, textOf?_segment] at hText
  exact (Option.some.inj hText).symm

theorem header_inOrder : header.InOrder := by
  refine .object (by decide) fun field hField => ?_
  simp only [List.mem_cons, List.not_mem_nil, or_false] at hField
  rcases hField with rfl | rfl <;> exact .string

theorem valueOf?_header : valueOf? (segment header.print) = some header := by
  have hPruned : header.pruned = header := by
    simp [header, Json.Value.pruned, Json.prunedFields, Json.Value.isAbsent]
  rw [valueOf?_segment header_inOrder, hPruned]

/-- A token is three segments of base64url; they hold the header, the claims as far as a text can tell them, in the
order in which they stand, and the keyed digest of what stands before the second dot. -/
theorem sign_decodes {fields : Json.Fields} (hClaims : (Json.Value.object fields).InOrder) (secret : String) :
    ∃ head body tail : String,
      sign (.object fields) secret = head ++ "." ++ body ++ "." ++ tail ∧
      (sign (.object fields) secret).toList.splitOn '.' = [head, body, tail].map String.toList ∧
      (∀ segment ∈ [head, body, tail], IsSegment segment) ∧
      valueOf? head = some (.object [("alg", .string "HS256"), ("typ", .string "JWT")]) ∧
      valueOf? body = some (.object (Json.prunedFields fields)) ∧
      (∃ bytes, Base64Url.decode? tail.toList = some bytes ∧ bytes.length = 32 ∧
        bytes = Sha256.hmac (utf8 secret) (utf8 (head ++ "." ++ body))) ∧
      ∀ claims' secret', sign (.object fields) secret = sign claims' secret' →
        (Json.Value.object fields).print = claims'.print := by
  refine ⟨_, _, _, sign_eq _ _, splitOn_sign _ _, ?_, valueOf?_header, ?_,
    ⟨_, decode?_stamp _ _, length_digest _ _, rfl⟩, fun _ _ => print_eq_of_sign_eq⟩
  · simp only [List.forall_mem_cons]
    exact ⟨isSegment_segment header, isSegment_segment _, isSegment_stamp _ secret, nofun⟩
  · rw [valueOf?_segment hClaims, Json.Value.pruned]

/-- Claims with an index for a key, a zero with a sign, a field without a value, and an object inside an array. -/
def nestedClaims : Json.Fields := [
  ("7", .number .negativeZero), ("sub", .string "\"ö\\"), ("gone", .absent),
  ("tags", .array [.absent, .object [("0", .null), ("deep", .bool true)]])]

theorem nestedClaims_inOrder : (Json.Value.object nestedClaims).InOrder := by
  have hInner : (Json.Value.object [("0", .null), ("deep", .bool true)]).InOrder := by
    refine .object (by decide) ?_
    simp only [List.forall_mem_cons]
    exact ⟨.null, .bool, nofun⟩
  refine .object (by decide) ?_
  simp only [nestedClaims, List.forall_mem_cons]
  refine ⟨.number, .string, .absent, .array ?_, nofun⟩
  simp only [List.forall_mem_cons]
  exact ⟨.absent, hInner, nofun⟩

theorem sign_decodes_nestedClaims :
    (Json.Value.object nestedClaims).InOrder ∧
      ∃ head body tail : String,
        (sign (.object nestedClaims) "s3cret").toList.splitOn '.' = [head, body, tail].map String.toList ∧
        valueOf? body = some (.object [("7", .number .zero), ("sub", .string "\"ö\\"),
          ("tags", .array [.null, .object [("0", .null), ("deep", .bool true)]])]) := by
  refine ⟨nestedClaims_inOrder, ?_⟩
  obtain ⟨head, body, tail, -, hSplit, -, -, hBody, -⟩ := sign_decodes nestedClaims_inOrder "s3cret"
  exact ⟨head, body, tail, hSplit, hBody⟩

end CubeSlice.Token
