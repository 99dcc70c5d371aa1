import CubeSlice.Json.Reader
import CubeSlice.Proofs.Json.Lexing

/-!
# Reading printed values

Every value can be printed, and its text reads back as the value that the text tells: absent fields are gone, absent
items and numbers that are not finite have become null, zeros have lost their sign, and the fields of an object stand
in property order.
-/

namespace CubeSlice.Json

mutual

def Value.readBack : Value → Value
  | .absent => .null
  | .null => .null
  | .bool b => .bool b
  | .number x => ofNumberText x
  | .string s => .string s
  | .array items => .array (readBackItems items)
  | .object fields => .ofEntries (readBackFields fields)

def readBackItems : List Value → List Value
  | [] => []
  | item :: rest => item.readBack :: readBackItems rest

def readBackFields : List (WideText × Value) → List (WideText × Value)
  | [] => []
  | (key, value) :: rest =>
    if value.isAbsent then readBackFields rest else (key, value.readBack) :: readBackFields rest

end

theorem readBackItems_eq_map (items : List Value) : readBackItems items = items.map Value.readBack := by
  induction items with
  | nil => rfl
  | cons item rest ih => rw [readBackItems, List.map_cons, ih]

variable {stack : List Frame}

def Build.atItem (first : Bool) (done : List Value) (stack : List Frame) : Build :=
  if first then .firstItem stack else .afterItem done stack

def Build.atKey (first : Bool) (done : List (WideText × Value)) (stack : List Frame) : Build :=
  if first then .firstKey stack else .afterMember done stack

theorem exists_tokens_eq_cons (v : Value) : ∃ t rest, v.tokens = t :: rest ∧ t ≠ .closeArray := by
  cases v with
  | absent => exact ⟨.atom .null, [], rfl, nofun⟩
  | null => exact ⟨.atom .null, [], rfl, nofun⟩
  | bool b => exact ⟨.atom (.bool b), [], rfl, nofun⟩
  | number x => exact ⟨.atom (ofNumberText x), [], rfl, nofun⟩
  | string s => exact ⟨.text s, [], rfl, nofun⟩
  | array items => exact ⟨.openArray, itemTokens true items ++ [.closeArray], rfl, nofun⟩
  | object fields => exact ⟨.openObject, fieldTokens true fields ++ [.closeObject], rfl, nofun⟩

theorem Build.foldlM_first (v : Value) :
    v.tokens.foldlM Build.step (.firstItem stack) = v.tokens.foldlM Build.step (.value (.items [] :: stack)) := by
  obtain ⟨t, rest, hTokens, ht⟩ := exists_tokens_eq_cons v
  have hStep : Build.step (.firstItem stack) t = Build.step (.value (.items [] :: stack)) t := by
    cases t <;> first | rfl | exact absurd rfl ht
  rw [hTokens, List.foldlM_cons, List.foldlM_cons, hStep]

theorem Build.foldlM_separated (v : Value) {first : Bool} {done : List Value} (hFirst : first = true → done = []) :
    (separator first ++ v.tokens).foldlM Build.step (.atItem first done stack) =
      v.tokens.foldlM Build.step (.value (.items done :: stack)) := by
  cases first with
  | true =>
    cases hFirst rfl
    exact foldlM_first v
  | false => rfl

theorem Build.foldlM_key (k : WideText) {first : Bool} {done : List (WideText × Value)}
    (hFirst : first = true → done = []) :
    (separator first ++ [Token.text k, Token.colon]).foldlM Build.step (.atKey first done stack) =
      .ok (.value (.member done k :: stack)) := by
  cases first with
  | true =>
    cases hFirst rfl
    rfl
  | false => rfl

mutual

theorem foldlM_tokens (v : Value) (stack : List Frame) :
    v.tokens.foldlM Build.step (.value stack) = .ok (Build.give v.readBack stack) := by
  cases v with
  | absent => rfl
  | null => rfl
  | bool b => rfl
  | number x => rfl
  | string s => rfl
  | array items =>
    rw [Value.tokens, Value.readBack]
    exact foldlM_itemTokens items true [] stack fun _ => rfl
  | object fields =>
    rw [Value.tokens, Value.readBack]
    exact foldlM_fieldTokens fields true [] stack fun _ => rfl

theorem foldlM_itemTokens (items : List Value) (first : Bool) (done : List Value) (stack : List Frame)
    (hFirst : first = true → done = []) :
    (itemTokens first items ++ [Token.closeArray]).foldlM Build.step (.atItem first done stack) =
      .ok (Build.give (.array (done.reverse ++ readBackItems items)) stack) := by
  cases items with
  | nil =>
    cases first with
    | true =>
      cases hFirst rfl
      rfl
    | false =>
      rw [itemTokens, readBackItems, List.append_nil]
      rfl
  | cons item rest =>
    have hRest := foldlM_itemTokens rest false (item.readBack :: done) stack nofun
    rw [List.reverse_cons, List.append_assoc] at hRest
    rw [itemTokens, readBackItems, List.append_assoc, List.foldlM_append, Build.foldlM_separated item hFirst,
      foldlM_tokens item, Traversal.ok_bind]
    exact hRest

theorem foldlM_fieldTokens (fields : List (WideText × Value)) (first : Bool) (done : List (WideText × Value))
    (stack : List Frame) (hFirst : first = true → done = []) :
    (fieldTokens first fields ++ [Token.closeObject]).foldlM Build.step (.atKey first done stack) =
      .ok (Build.give (.ofEntries (done.reverse ++ readBackFields fields)) stack) := by
  match fields with
  | [] =>
    cases first with
    | true =>
      cases hFirst rfl
      rfl
    | false =>
      rw [fieldTokens, readBackFields, List.append_nil]
      rfl
  | (key, value) :: rest =>
    rw [fieldTokens, readBackFields]
    split
    · exact foldlM_fieldTokens rest first done stack hFirst
    · have hRest := foldlM_fieldTokens rest false ((key, value.readBack) :: done) stack nofun
      rw [List.reverse_cons, List.append_assoc] at hRest
      rw [List.append_assoc, List.append_assoc, List.foldlM_append, Build.foldlM_key _ hFirst, Traversal.ok_bind,
        List.foldlM_append, foldlM_tokens value, Traversal.ok_bind]
      exact hRest

end

/-- The text of a value reads back as what it tells of the value. -/
theorem read_print (v : Value) : read v.print = .ok v.readBack := by
  have hTokens := foldlM_tokens v []
  rw [read, tokens_print, Traversal.ok_bind, readTokens, hTokens]
  rfl

end CubeSlice.Json
