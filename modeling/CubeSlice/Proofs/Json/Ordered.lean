import CubeSlice.Proofs.Json.Reading

/-!
# Values in property order

The fields of an object have distinct keys; those that are array indices come first, the least of them in front.
A value whose objects are all in this order reads back from its text in the same order.
-/

namespace CubeSlice.Json

namespace Fields

def Precedes (k k' : WideText) : Prop := k ≠ k' ∧ ∀ j ∈ index? k', ∃ i ∈ index? k, i < j

instance (k k' : WideText) : Decidable (Precedes k k') := inferInstanceAs (Decidable (_ ∧ _))

theorem put_of_notMem {κ : Type} [BEq κ] [LawfulBEq κ] {fields : List (κ × Value)} {key : κ}
    (h : key ∉ fields.map Prod.fst) (value : Value) : put fields key value = fields ++ [(key, value)] := by
  induction fields with
  | nil => rfl
  | cons e rest ih =>
    obtain ⟨k, v⟩ := e
    rw [List.map_cons, List.mem_cons, not_or] at h
    have hKey : (k == key) = false := beq_false_of_ne (Ne.symm h.1)
    rw [put, hKey, ih h.2]
    rfl

theorem settle_of_nodup {κ : Type} [BEq κ] [LawfulBEq κ] {entries : List (κ × Value)}
    (h : (entries.map Prod.fst).Nodup) : settle entries = entries := by
  -- No entry has a key of those that are done, so each is added at the end.
  have hFold (done : List (κ × Value)) (hDone : ((done ++ entries).map Prod.fst).Nodup) :
      entries.foldl (fun fields e => put fields e.1 e.2) done = done ++ entries := by
    clear h
    induction entries generalizing done with
    | nil => rw [List.foldl_nil, List.append_nil]
    | cons e rest ih =>
      have hNew : e.1 ∉ done.map Prod.fst := by
        rw [List.map_append, List.nodup_append] at hDone
        exact fun hOld => hDone.2.2 _ hOld _ List.mem_cons_self rfl
      rw [List.foldl_cons, put_of_notMem hNew, ih _ (by rwa [List.append_assoc]), List.append_assoc]
      rfl
  exact hFold [] h

variable {fields : Fields}

theorem Precedes.isIndexed {a b : WideText × Value} (h : Precedes a.1 b.1) (hb : isIndexed b = true) :
    isIndexed a = true ∧ indexOf a < indexOf b := by
  obtain ⟨j, hj⟩ := Option.isSome_iff_exists.mp hb
  obtain ⟨i, hi, hLess⟩ := h.2 j hj
  rw [Option.mem_def] at hi
  refine ⟨Option.isSome_iff_exists.mpr ⟨i, hi⟩, ?_⟩
  rwa [indexOf, indexOf, hi, hj]

theorem filter_append_filter (h : (fields.map Prod.fst).Pairwise Precedes) :
    fields.filter isIndexed ++ fields.filter (!isIndexed ·) = fields := by
  induction fields with
  | nil => rfl
  | cons a rest ih =>
    rw [List.map_cons, List.pairwise_cons] at h
    cases ha : isIndexed a with
    | true => rw [List.filter_cons_of_pos ha, List.filter_cons_of_neg (by simp [ha]), List.cons_append, ih h.2]
    | false =>
      -- behind the first key that is no index there is none
      have hRest : ∀ b ∈ rest, isIndexed b = false := by
        intro b hb
        have hPrecedes := h.1 b.1 (List.mem_map_of_mem hb)
        by_contra hIndexed
        have hBoth := hPrecedes.isIndexed (Bool.of_not_eq_false hIndexed)
        rw [ha] at hBoth
        exact Bool.false_ne_true hBoth.1
      have hNone : (a :: rest).filter isIndexed = [] := List.filter_eq_nil_iff.mpr fun b hb => by
        rcases List.mem_cons.mp hb with rfl | hb
        · simp [ha]
        · simp [hRest b hb]
      have hAll : (a :: rest).filter (!isIndexed ·) = a :: rest := List.filter_eq_self.mpr fun b hb => by
        rcases List.mem_cons.mp hb with rfl | hb
        · simp [ha]
        · simp [hRest b hb]
      rw [hNone, hAll, List.nil_append]

theorem arrange_of_pairwise (h : (fields.map Prod.fst).Pairwise Precedes) : arrange fields = fields := by
  have hSorted : (fields.filter isIndexed).Pairwise fun a b => decide (indexOf a ≤ indexOf b) = true := by
    have hFields := List.pairwise_map.mp h
    rw [List.pairwise_filter]
    refine hFields.imp fun hab _ hb => ?_
    exact decide_eq_true (Nat.le_of_lt (hab.isIndexed hb).2)
  rw [arrange, List.mergeSort_of_pairwise hSorted, filter_append_filter h, ite_self]

theorem ofEntries_of_pairwise (h : (fields.map Prod.fst).Pairwise Precedes) : ofEntries fields = fields := by
  have hNodup : (fields.map Prod.fst).Nodup := h.imp And.left
  rw [ofEntries, settle_of_nodup hNodup, arrange_of_pairwise h]

end Fields

/-- The objects of a value have distinct keys, and in property order. -/
inductive Value.InOrder : Value → Prop where
  | absent : InOrder .absent
  | null : InOrder .null
  | bool {b : Bool} : InOrder (.bool b)
  | number {x : Number} : InOrder (.number x)
  | string {t : WideText} : InOrder (.string t)
  | array {items : List Value} (hItems : ∀ item ∈ items, item.InOrder) : InOrder (.array items)
  | object {fields : List (WideText × Value)} (hKeys : (fields.map Prod.fst).Pairwise Fields.Precedes)
    (hValues : ∀ field ∈ fields, field.2.InOrder) : InOrder (.object fields)

mutual

/-- A value as its text can tell it: without absent fields, with null for absent items and for numbers that are not
finite, and without signs of zeros. Everything stands where it stood. -/
def Value.pruned : Value → Value
  | .absent => .null
  | .null => .null
  | .bool b => .bool b
  | .number x => ofNumberText x
  | .string s => .string s
  | .array items => .array (prunedItems items)
  | .object fields => .object (prunedFields fields)

def prunedItems : List Value → List Value
  | [] => []
  | item :: rest => item.pruned :: prunedItems rest

def prunedFields : List (WideText × Value) → List (WideText × Value)
  | [] => []
  | (key, value) :: rest =>
    if value.isAbsent then prunedFields rest else (key, value.pruned) :: prunedFields rest

end

theorem prunedFields_keys (fields : List (WideText × Value)) :
    ((prunedFields fields).map Prod.fst).Sublist (fields.map Prod.fst) := by
  induction fields with
  | nil => exact .slnil
  | cons field rest ih =>
    obtain ⟨key, value⟩ := field
    rw [prunedFields]
    split
    · exact ih.cons key
    · exact ih.cons_cons key

mutual

theorem Value.InOrder.readBack_eq {v : Value} (h : v.InOrder) : v.readBack = v.pruned := by
  cases v with
  | absent | null | bool | number | string => rw [Value.readBack, Value.pruned]
  | array items =>
    cases h with
    | array hItems => rw [Value.readBack, Value.pruned, readBackItems_eq_of_inOrder hItems]
  | object fields =>
    cases h with
    | object hKeys hValues =>
      rw [Value.readBack, Value.pruned, readBackFields_eq_of_inOrder hValues, Value.ofEntries,
        Fields.ofEntries_of_pairwise (hKeys.sublist (prunedFields_keys fields))]

theorem readBackItems_eq_of_inOrder {items : List Value} (h : ∀ item ∈ items, item.InOrder) :
    readBackItems items = prunedItems items := by
  cases items with
  | nil => rfl
  | cons item rest =>
    rw [List.forall_mem_cons] at h
    rw [readBackItems, prunedItems, h.1.readBack_eq, readBackItems_eq_of_inOrder h.2]

theorem readBackFields_eq_of_inOrder {fields : List (WideText × Value)} (h : ∀ field ∈ fields, field.2.InOrder) :
    readBackFields fields = prunedFields fields := by
  match fields with
  | [] => rfl
  | (key, value) :: rest =>
    rw [List.forall_mem_cons] at h
    rw [readBackFields, prunedFields, h.1.readBack_eq, readBackFields_eq_of_inOrder h.2]

end

/-- The text of a value in property order reads back in that order. -/
theorem Value.InOrder.read_print {v : Value} (h : v.InOrder) : read v.print = .ok v.pruned := by
  rw [Json.read_print, h.readBack_eq]

end CubeSlice.Json
