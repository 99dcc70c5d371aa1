import CubeSlice.Json.Reader
import CubeSlice.Proofs.Traversal

/-!
# Property order of what is read

Whatever text an object is read from, its fields stand in property order: keys that are array indices in front, the
least of them first. This is an invariant of the reader, which holds of all values that it has completed.
-/

namespace CubeSlice.Json

open Traversal

/-- Indexed keys stand in front, in ascending order. -/
def Fields.Arranged (fields : Fields) : Prop :=
  fields.Pairwise fun a b => isIndexed b = true → isIndexed a = true ∧ indexOf a ≤ indexOf b

/-- All objects inside the value are in property order. -/
inductive Value.Arranged : Value → Prop
  | absent : Arranged .absent
  | null : Arranged .null
  | bool {b : Bool} : Arranged (.bool b)
  | number {x : Number} : Arranged (.number x)
  | string {t : WideText} : Arranged (.string t)
  | array {items : List Value} (hItems : ∀ item ∈ items, item.Arranged) : Arranged (.array items)
  | object {fields : List (WideText × Value)} (hOrder : Fields.Arranged fields)
    (hValues : ∀ field ∈ fields, field.2.Arranged) : Arranged (.object fields)

namespace Fields

theorem arranged_arrange (fields : Fields) : (arrange fields).Arranged := by
  unfold arrange
  split
  · refine List.pairwise_append.mpr ⟨?_, ?_, ?_⟩
    · have hSorted : ((fields.filter isIndexed).mergeSort fun a b => indexOf a ≤ indexOf b).Pairwise
          fun a b => decide (indexOf a ≤ indexOf b) = true := by
        apply List.pairwise_mergeSort
        · intro a b c hab hbc
          exact decide_eq_true (Nat.le_trans (of_decide_eq_true hab) (of_decide_eq_true hbc))
        · intro a b
          simpa using Nat.le_total (indexOf a) (indexOf b)
      refine hSorted.imp_of_mem fun {a b} ha _ hab _ => ?_
      rw [List.mem_mergeSort, List.mem_filter] at ha
      exact ⟨ha.2, of_decide_eq_true hab⟩
    · refine List.pairwise_of_forall_mem_list fun a _ b hb hIndexed => ?_
      simp [hIndexed] at hb
    · intro a _ b hb hIndexed
      simp [hIndexed] at hb
  · rename_i hNone
    refine List.pairwise_of_forall_mem_list fun a _ b hb hIndexed => ?_
    exact absurd (List.any_eq_true.mpr ⟨b, hb, hIndexed⟩) hNone

theorem mem_arrange_iff {fields : Fields} {field : WideText × Value} : field ∈ arrange fields ↔ field ∈ fields := by
  unfold arrange
  split
  · rw [List.mem_append, List.mem_mergeSort, List.mem_filter, List.mem_filter]
    cases isIndexed field <;> simp
  · rfl

variable {κ : Type} [BEq κ]

theorem mem_put {fields : List (κ × Value)} {key : κ} {value : Value} {e : κ × Value}
    (h : e ∈ put fields key value) : e.2 = value ∨ e ∈ fields := by
  induction fields with
  | nil =>
    obtain rfl := List.mem_singleton.mp h
    exact .inl rfl
  | cons first rest ih =>
    unfold put at h
    split at h
    · rcases List.mem_cons.mp h with rfl | hRest
      · exact .inl rfl
      · exact .inr (List.mem_cons_of_mem _ hRest)
    · rcases List.mem_cons.mp h with rfl | hRest
      · exact .inr List.mem_cons_self
      · exact (ih hRest).imp id (List.mem_cons_of_mem _)

theorem exists_mem_of_mem_settle {entries : List (κ × Value)} {e : κ × Value} (h : e ∈ settle entries) :
    ∃ entry ∈ entries, entry.2 = e.2 := by
  have hFold (done : List (κ × Value)) : e ∈ entries.foldl (fun fields e => put fields e.1 e.2) done →
      e ∈ done ∨ ∃ entry ∈ entries, entry.2 = e.2 := by
    clear h
    induction entries generalizing done with
    | nil => exact .inl
    | cons entry rest ih =>
      intro hMem
      rcases ih (put done entry.1 entry.2) hMem with hDone | ⟨entry', hRest, hValue⟩
      · rcases mem_put hDone with hValue | hOld
        · exact .inr ⟨entry, List.mem_cons_self, hValue.symm⟩
        · exact .inl hOld
      · exact .inr ⟨entry', List.mem_cons_of_mem _ hRest, hValue⟩
  exact (hFold [] h).resolve_left List.not_mem_nil

end Fields

theorem arranged_ofEntries {entries : List (WideText × Value)} (h : ∀ entry ∈ entries, entry.2.Arranged) :
    (Value.ofEntries entries).Arranged := by
  refine .object (Fields.arranged_arrange _) fun field hField => ?_
  obtain ⟨entry, hMem, hValue⟩ := Fields.exists_mem_of_mem_settle (Fields.mem_arrange_iff.mp hField)
  exact hValue ▸ h entry hMem

theorem foldlM_preserves {σ α ε : Type} {f : σ → α → Except ε σ} {P : σ → Prop} {l : List α} {s s' : σ} (hs : P s)
    (hStep : ∀ a ∈ l, ∀ s s', P s → f s a = .ok s' → P s') (h : l.foldlM f s = .ok s') : P s' := by
  induction l generalizing s with
  | nil =>
    cases h
    exact hs
  | cons a l ih =>
    rw [List.foldlM_cons] at h
    obtain ⟨mid, hFirst, hRest⟩ := bind_eq_ok_iff.mp h
    rw [List.forall_mem_cons] at hStep
    exact ih (hStep.1 s mid hs hFirst) hStep.2 hRest

def Token.Arranged : Token → Prop
  | .atom v => v.Arranged
  | _ => True

theorem arranged_of_readWord {cs : List Char} {v : Value} (h : readWord cs = .ok v) : v.Arranged := by
  unfold readWord at h
  split at h
  · cases h
    exact .null
  · split at h
    · cases h
      exact .bool
    · split at h
      · cases h
        exact .bool
      · split at h
        · cases h
          exact .number
        · cases h

namespace Lexer

def Arranged (s : Lexer) : Prop := ∀ t ∈ s.done, t.Arranged

theorem arranged_stepGap {done : List Token} (h : ∀ t ∈ done, t.Arranged) (c : Char) : (stepGap done c).Arranged := by
  unfold stepGap
  split
  · exact h
  · split
    · exact h
    · split
      · rename_i t hMark
        refine List.forall_mem_cons.mpr ⟨?_, h⟩
        unfold mark? at hMark
        split at hMark <;> cases hMark <;> trivial
      · exact h

theorem arranged_step {s s' : Lexer} {c : Char} (h : s.Arranged) (hStep : s.step c = .ok s') : s'.Arranged := by
  obtain ⟨scan, done⟩ := s
  cases scan with
  | gap =>
    cases hStep
    exact arranged_stepGap h c
  | word cs =>
    dsimp only [Lexer.step] at hStep
    split at hStep
    · obtain ⟨v, hWord, hStep⟩ := bind_eq_ok_iff.mp hStep
      cases hStep
      have hAtom : (Token.atom v).Arranged := arranged_of_readWord hWord
      exact arranged_stepGap (List.forall_mem_cons.mpr ⟨hAtom, h⟩) c
    · cases hStep
      exact h
  | text us =>
    dsimp only [Lexer.step] at hStep
    split at hStep
    · cases hStep
      exact List.forall_mem_cons.mpr ⟨trivial, h⟩
    · split at hStep
      · cases hStep
        exact h
      · split at hStep
        · cases hStep
        · cases hStep
          exact h
  | escape us =>
    dsimp only [Lexer.step] at hStep
    split at hStep
    · cases hStep
      exact h
    · split at hStep <;> cases hStep
      exact h
  | unicode us digits code =>
    dsimp only [Lexer.step] at hStep
    split at hStep
    · cases hStep
    · split at hStep <;> cases hStep <;> exact h

theorem arranged_finish {s : Lexer} {ts : List Token} (h : s.Arranged) (hFinish : s.finish = .ok ts) :
    ∀ t ∈ ts, t.Arranged := by
  obtain ⟨scan, done⟩ := s
  cases scan with
  | gap =>
    cases hFinish
    exact fun t ht => h t (List.mem_reverse.mp ht)
  | word cs =>
    obtain ⟨v, hWord, hFinish⟩ := bind_eq_ok_iff.mp hFinish
    cases hFinish
    intro t ht
    rcases List.mem_cons.mp (List.mem_reverse.mp ht) with rfl | hDone
    · exact arranged_of_readWord hWord
    · exact h t hDone
  | text us => cases hFinish
  | escape us => cases hFinish
  | unicode us digits code => cases hFinish

end Lexer

theorem arranged_of_tokens {cs : List Char} {ts : List Token} (h : tokens cs = .ok ts) : ∀ t ∈ ts, t.Arranged := by
  obtain ⟨s, hSteps, hFinish⟩ := bind_eq_ok_iff.mp h
  have hStart : (Lexer.mk .gap []).Arranged := fun t ht => absurd ht List.not_mem_nil
  exact Lexer.arranged_finish (foldlM_preserves hStart (fun _ _ _ _ => Lexer.arranged_step) hSteps) hFinish

def Frame.values : Frame → List Value
  | .items done => done
  | .member done _ => done.map Prod.snd

namespace Build

def values : Build → List Value
  | value stack => stack.flatMap Frame.values
  | firstItem stack => stack.flatMap Frame.values
  | firstKey stack => stack.flatMap Frame.values
  | key done stack => done.map Prod.snd ++ stack.flatMap Frame.values
  | colon done _ stack => done.map Prod.snd ++ stack.flatMap Frame.values
  | afterItem done stack => done ++ stack.flatMap Frame.values
  | afterMember done stack => done.map Prod.snd ++ stack.flatMap Frame.values
  | finished v => [v]

def Arranged (s : Build) : Prop := ∀ v ∈ s.values, v.Arranged

variable {stack : List Frame} {v : Value} {t : Token} {s s' : Build}

theorem arranged_give (hv : v.Arranged) (h : ∀ u ∈ stack.flatMap Frame.values, u.Arranged) :
    (give v stack).Arranged := by
  cases stack with
  | nil => exact List.forall_mem_singleton.mpr hv
  | cons frame stack =>
    rw [List.flatMap_cons, List.forall_mem_append] at h
    cases frame with
    | items done => exact List.forall_mem_cons.mpr ⟨hv, List.forall_mem_append.mpr h⟩
    | member done k => exact List.forall_mem_cons.mpr ⟨hv, List.forall_mem_append.mpr h⟩

theorem arranged_enter (ht : t.Arranged) (h : ∀ u ∈ stack.flatMap Frame.values, u.Arranged)
    (hStep : enter stack t = .ok s') : s'.Arranged := by
  cases t with
  | atom v =>
    cases hStep
    exact arranged_give ht h
  | text points =>
    cases hStep
    exact arranged_give .string h
  | openArray =>
    cases hStep
    exact h
  | openObject =>
    cases hStep
    exact h
  | closeArray => cases hStep
  | closeObject => cases hStep
  | comma => cases hStep
  | colon => cases hStep

/-- A step holds on to values, takes the one of its token, or puts one together from those of an open array or
object. -/
theorem arranged_step (ht : t.Arranged) (h : s.Arranged) (hStep : step s t = .ok s') : s'.Arranged := by
  cases s with
  | value stack => exact arranged_enter ht h hStep
  | firstItem stack =>
    by_cases hClose : t = .closeArray
    · subst hClose
      cases hStep
      exact arranged_give (.array fun item hItem => absurd hItem List.not_mem_nil) h
    · have hEnter : step (firstItem stack) t = enter (.items [] :: stack) t := by
        cases t <;> first | rfl | exact absurd rfl hClose
      rw [hEnter] at hStep
      have hOpen : ∀ u ∈ (Frame.items [] :: stack).flatMap Frame.values, u.Arranged := h
      exact arranged_enter ht hOpen hStep
  | firstKey stack =>
    cases t with
    | closeObject =>
      cases hStep
      exact arranged_give (.object .nil fun field hField => absurd hField List.not_mem_nil) h
    | text k =>
      cases hStep
      exact h
    | _ => cases hStep
  | key done stack =>
    cases t with
    | text k =>
      cases hStep
      exact h
    | _ => cases hStep
  | colon done k stack =>
    cases t with
    | colon =>
      cases hStep
      exact h
    | _ => cases hStep
  | afterItem done stack =>
    cases t with
    | comma =>
      cases hStep
      exact h
    | closeArray =>
      cases hStep
      obtain ⟨hDone, hStack⟩ := List.forall_mem_append.mp h
      exact arranged_give (.array fun item hItem => hDone item (List.mem_reverse.mp hItem)) hStack
    | _ => cases hStep
  | afterMember done stack =>
    cases t with
    | comma =>
      cases hStep
      exact h
    | closeObject =>
      cases hStep
      obtain ⟨hDone, hStack⟩ := List.forall_mem_append.mp h
      refine arranged_give (arranged_ofEntries fun m hMem => ?_) hStack
      exact hDone _ (List.mem_map_of_mem (List.mem_reverse.mp hMem))
    | _ => cases hStep
  | finished u => cases hStep

end Build

theorem arranged_of_read {text : String} {v : Value} (h : read text = .ok v) : v.Arranged := by
  obtain ⟨ts, hTokens, hRead⟩ := bind_eq_ok_iff.mp h
  obtain ⟨s, hSteps, hFinish⟩ := bind_eq_ok_iff.mp hRead
  have hStart : (Build.value []).Arranged := fun u hu => absurd hu List.not_mem_nil
  have hArranged : s.Arranged := foldlM_preserves hStart
    (fun t ht _ _ => Build.arranged_step (arranged_of_tokens hTokens t ht)) hSteps
  cases s with
  | finished u =>
    cases hFinish
    exact hArranged v (List.mem_singleton_self v)
  | _ => cases hFinish

end CubeSlice.Json
