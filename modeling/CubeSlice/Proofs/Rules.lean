import Mathlib.Data.List.Forall2
import CubeSlice.Proofs.Schema
import CubeSlice.Proofs.Text.Wide

/-!
# Rules for values

A rule asks for one thing after the other: for a kind, and then for what a value of that kind has to be like. The parts
of a value come in order, the items of an array by index, the fields that a rule names in the order of the rule, and
those of a record in property order. A check finds what a rule asks for when it passes the values that violate nothing
and fails the others with what is violated first. Checks one behind the other find what is asked for in that order.
-/

namespace CubeSlice.Schema

open Json (Value Fields)
open Traversal

abbrev Violations := List Nat → Option Violation

abbrev Rule := Value → Violations

namespace Violations

def asked (holds : Bool) (reason : Reason) : Violations
  | [] => if holds then none else some ⟨[], reason⟩
  | _ :: _ => none

def under (step : Step) (vs : Violations) : Violations := fun turn =>
  (vs turn).map fun w => ⟨step :: w.path, w.reason⟩

/-- The turns of number `i` start with `i`. -/
def inOrder (all : List Violations) : Violations
  | [] => none
  | i :: turn => all[i]?.bind fun vs => vs turn

def First (vs : Violations) (w : Violation) : Prop :=
  ∃ turn, vs turn = some w ∧ ∀ turn' w', vs turn' = some w' → Form.NoLater turn turn'

end Violations

namespace Rule

def ofKind (kind : Kind) : Rule := fun v => .asked (Kind.of v = kind) (Form.mismatchReason kind v)

def number : Rule := ofKind .number

def string : Rule := ofKind .string

/-- A number has to be an integer before it has to be at least zero. -/
def natural : Rule := fun v => .inOrder (number v ::
  match v with
  | .number x => [.asked x.isInteger .notInteger, .asked (!x.lt Number.zero) .negative]
  | _ => [])

def optional (rule : Rule) : Rule
  | .absent => .inOrder []
  | v => rule v

def array (rule : Rule) : Rule := fun v => .inOrder (ofKind .array v ::
  match v with
  | .array items => items.zipIdx.map fun (item, i) => (rule item).under (.index i)
  | _ => [])

def object (entries : List (String × Rule)) : Rule := fun v => .inOrder (ofKind .object v ::
  entries.map fun (name, rule) => (rule (v.field name)).under (.key name))

def record (rule : Rule) : Rule := fun v => .inOrder (ofKind .object v ::
  match v with
  | .object fields => fields.map fun (name, value) => (rule value).under (.entry name)
  | _ => [])

end Rule

/-- There is a result if nothing is violated, and otherwise what is violated first. -/
structure Finds {α : Type} (result : Except Violation α) (vs : Violations) : Prop where
  nothing : ∀ {a}, result = .ok a → ∀ turn, vs turn = none
  first : ∀ {w}, result = .error w → vs.First w

variable {α β : Type} {v : Value} {vs : Violations} {w w' : Violation} {kind : Kind} {check : Check α} {rule : Rule}

theorem Violations.First.unique (h : vs.First w) (h' : vs.First w') : w = w' := by
  obtain ⟨turn, hViolated, hFirst⟩ := h
  obtain ⟨turn', hViolated', hFirst'⟩ := h'
  obtain rfl := (hFirst _ _ hViolated').antisymm (hFirst' _ _ hViolated)
  exact Option.some.inj (hViolated.symm.trans hViolated')

theorem Violations.First.head (h : vs.First w) (rest : List Violations) : (inOrder (vs :: rest)).First w := by
  obtain ⟨turn, hViolated, hFirst⟩ := h
  refine ⟨0 :: turn, hViolated, fun turn' w' hOther => ?_⟩
  match turn' with
  | [] => cases hOther
  | 0 :: turn' => exact .later (hFirst turn' w' hOther)
  | (i + 1) :: turn' => exact .earlier (Nat.succ_pos i)

theorem Violations.First.tail {rest : List Violations} (hNone : ∀ turn, vs turn = none) (h : (inOrder rest).First w) :
    (inOrder (vs :: rest)).First w := by
  obtain ⟨turn, hViolated, hFirst⟩ := h
  cases turn with
  | nil => cases hViolated
  | cons i turn =>
    refine ⟨(i + 1) :: turn, hViolated, fun turn' w' hOther => ?_⟩
    match turn' with
    | [] => cases hOther
    | 0 :: turn' => exact absurd (hOther.symm.trans (hNone turn')) (Option.some_ne_none w')
    | (j + 1) :: turn' =>
      cases hFirst (j :: turn') w' hOther with
      | earlier before => exact .earlier (Nat.succ_lt_succ before)
      | later inside => exact .later inside

namespace Finds

variable {result : Except Violation α} {rest : List Violations}

theorem error_iff (h : Finds result vs) : result = .error w ↔ vs.First w := by
  constructor
  · exact h.first
  · intro hFirst
    cases result with
    | ok a =>
      obtain ⟨turn, hViolated, -⟩ := hFirst
      rw [h.nothing rfl turn] at hViolated
      cases hViolated
    | error w' => rw [(h.first rfl).unique hFirst]

theorem ok (a : α) : Finds (.ok a) (.inOrder []) where
  nothing _ turn := by cases turn <;> rfl
  first h := by cases h

theorem asked_true (a : α) (reason : Reason) : Finds (.ok a) (.asked true reason) where
  nothing _ turn := by cases turn <;> rfl
  first h := by cases h

theorem asked_false (reason : Reason) :
    Finds (.error ⟨[], reason⟩ : Except Violation α) (.asked false reason) where
  nothing h := by cases h
  first h := by
    cases h
    exact ⟨[], rfl, fun turn' _ _ => .start turn'⟩

theorem map (f : α → β) (h : Finds result vs) : Finds (result.map f) vs where
  nothing hOk := by
    obtain ⟨a, hResult, -⟩ := map_eq_ok_iff.mp hOk
    exact h.nothing hResult
  first hError := h.first (map_eq_error_iff.mp hError)

theorem within {step : Step} (h : Finds result vs) : Finds (within step result) (vs.under step) where
  nothing hOk turn := by
    rw [Violations.under, h.nothing (within_eq_ok_iff.mp hOk) turn, Option.map_none]
  first hError := by
    obtain ⟨w, hResult, rfl⟩ := within_eq_error_iff.mp hError
    obtain ⟨turn, hViolated, hFirst⟩ := h.first hResult
    refine ⟨turn, by rw [Violations.under, hViolated, Option.map_some], fun turn' w' hOther => ?_⟩
    obtain ⟨w'', hInside, -⟩ := Option.map_eq_some_iff.mp hOther
    exact hFirst turn' w'' hInside

theorem bind {f : α → Except Violation β} (h : Finds result vs)
    (hRest : ∀ a, result = .ok a → Finds (f a) (.inOrder rest)) : Finds (result >>= f) (.inOrder (vs :: rest)) := by
  cases result with
  | error w =>
    refine ⟨fun hOk => (by cases hOk), fun hError => ?_⟩
    cases hError
    exact (h.first rfl).head rest
  | ok a =>
    have hNone := h.nothing rfl
    constructor
    · intro b hOk turn
      match turn with
      | [] => rfl
      | 0 :: turn => exact hNone turn
      | (i + 1) :: turn => exact (hRest a rfl).nothing hOk (i :: turn)
    · intro w hError
      exact ((hRest a rfl).first hError).tail hNone

theorem last (h : Finds result vs) : Finds result (.inOrder [vs]) := by
  have hPure : (result >>= Except.ok) = result := bind_pure result
  rw [← hPure]
  exact h.bind fun a _ => ok a

theorem mapM {ι : Type} {step : ι → Step} {value : ι → Value} {g : ι → Except Violation β} (k : ι → α → β)
    (h : ∀ v, Finds (check v) (rule v)) (hg : ∀ p, g p = (Schema.within (step p) (check (value p))).map (k p))
    (l : List ι) : Finds (l.mapM g) (.inOrder (l.map fun p => (rule (value p)).under (step p))) := by
  induction l with
  | nil => exact ok []
  | cons p l ih =>
    rw [List.mapM_cons, List.map_cons, hg p]
    refine bind ((h (value p)).within.map (k p)) fun b _ => ?_
    have hTail : (l.mapM g >>= fun bs => pure (b :: bs)) = (l.mapM g).map (b :: ·) := by
      cases l.mapM g <;> rfl
    rw [hTail]
    exact ih.map (b :: ·)

theorem of_kind (h : Kind.of v = kind) (a : α) : Finds (.ok a) (Rule.ofKind kind v) := by
  rw [Rule.ofKind, decide_eq_true h]
  exact asked_true a _

theorem of_kind_ne (h : Kind.of v ≠ kind) :
    Finds (.error ⟨[], Form.mismatchReason kind v⟩ : Except Violation α) (Rule.ofKind kind v) := by
  rw [Rule.ofKind, decide_eq_false h]
  exact asked_false _

theorem number (v : Value) : Finds (Schema.number v) (Rule.number v) := by
  by_cases hKind : Kind.of v = .number
  · obtain ⟨x, rfl, hNumber⟩ := kind_eq_number_iff.mp hKind
    rw [number_eq_ok_iff.mpr ⟨rfl, hNumber⟩]
    exact of_kind hKind x
  · rw [number_of_kind_ne hKind]
    exact of_kind_ne hKind

theorem string (v : Value) : Finds (Schema.string v) (Rule.string v) := by
  unfold Schema.string
  split
  · exact of_kind rfl _
  · rename_i hOther
    rw [mismatch_eq]
    refine of_kind_ne fun hKind => ?_
    cases v with
    | string s => exact hOther s rfl
    | number x => exact kind_number_ne Kind.noConfusion Kind.noConfusion hKind
    | _ => cases hKind

theorem natural (v : Value) : Finds (Schema.natural v) (Rule.natural v) := by
  apply bind (number v)
  intro x hNumber
  obtain ⟨rfl, -⟩ := number_eq_ok_iff.mp hNumber
  have hSplit : (if !x.isInteger then .error ⟨[], .notInteger⟩
      else if x.lt Number.zero then .error ⟨[], .negative⟩ else .ok x : Except Violation Number) =
      (if x.isInteger then .ok () else .error ⟨[], .notInteger⟩) >>= fun _ =>
        if x.lt Number.zero then .error ⟨[], .negative⟩ else .ok x := by
    cases x.isInteger <;> rfl
  dsimp only
  rw [hSplit]
  apply bind
  · cases x.isInteger
    · exact asked_false _
    · exact asked_true () _
  · intro _ _
    apply last
    cases x.lt Number.zero
    · exact asked_true x _
    · exact asked_false _

theorem optional (h : ∀ v, Finds (check v) (rule v)) (v : Value) :
    Finds (Schema.optional check v) (rule.optional v) := by
  cases v with
  | absent => exact ok none
  | _ => exact (h _).map some

theorem array (h : ∀ v, Finds (check v) (rule v)) (v : Value) : Finds (items check v) (rule.array v) := by
  by_cases hKind : Kind.of v = .array
  · obtain ⟨vs, rfl⟩ := kind_eq_array_iff.mp hKind
    have hItem (p : Value × Nat) : Schema.within (.index p.2) (check p.1) =
        (Schema.within (.index p.2) (check p.1)).map id := by
      cases Schema.within (.index p.2) (check p.1) <;> rfl
    exact bind (of_kind hKind ()) fun _ _ => mapM (fun _ => id) h hItem vs.zipIdx
  · rw [items_of_kind_ne hKind]
    exact bind (f := fun _ : Unit => .ok []) (of_kind_ne hKind) fun _ hOk => (by cases hOk)

theorem fields (v : Value) : Finds (Schema.fields v) (Rule.ofKind .object v) := by
  by_cases hKind : Kind.of v = .object
  · obtain ⟨fs, rfl⟩ := kind_eq_object_iff.mp hKind
    exact of_kind hKind fs
  · have hError : Schema.fields v = .error ⟨[], Form.mismatchReason .object v⟩ := by
      unfold Schema.fields
      split
      · exact absurd rfl hKind
      · exact mismatch_eq .object _
    rw [hError]
    exact of_kind_ne hKind

theorem record (h : ∀ v, Finds (check v) (rule v)) (v : Value) :
    Finds (Schema.record check v) (rule.record v) := by
  apply bind (fields v)
  intro fs hFields
  obtain rfl := fields_eq_ok_iff.mp hFields
  have hEntry (p : WideText × Value) : (do
      let x ← Schema.within (.entry p.1) (check p.2)
      return (p.1, x)) = (Schema.within (.entry p.1) (check p.2)).map fun x => (p.1, x) := by
    cases Schema.within (.entry p.1) (check p.2) <;> rfl
  exact (mapM (fun p x => (p.1, x)) h hEntry fs).map _

end Finds

theorem Path.text_cons_ne {name : String} (h : name ≠ "") (path : Path) : Path.text (.key name :: path) ≠ "" := by
  intro hText
  obtain ⟨rest, hUnits⟩ := WideText.exists_units_intercalate "." name (path.map Step.text)
  have hNone : (Path.text (.key name :: path)).units = [] := congrArg WideText.units hText
  exact WideText.ofString_ne_empty h (List.append_eq_nil_iff.mp (hUnits.symm.trans hNone)).1

theorem Rule.text_eq_empty_iff {entries : List (String × Rule)} (hNames : ∀ entry ∈ entries, entry.1 ≠ "")
    (h : (Rule.object entries v).First w) : w.path.text = "" ↔ Kind.of v ≠ .object := by
  by_cases hKind : Kind.of v = .object
  · refine iff_of_false (fun hEmpty => ?_) (not_not.mpr hKind)
    obtain ⟨turn, hViolated, -⟩ := h
    match turn with
    | [] => cases hViolated
    | 0 :: turn =>
      have hNone := (Finds.of_kind hKind ()).nothing rfl turn
      exact Option.some_ne_none w (hViolated.symm.trans hNone)
    | (i + 1) :: turn =>
      obtain ⟨vs, hPart, hInside⟩ := Option.bind_eq_some_iff.mp hViolated
      obtain ⟨entry, hEntry, rfl⟩ := List.mem_map.mp (List.mem_of_getElem? hPart)
      obtain ⟨w', -, rfl⟩ := Option.map_eq_some_iff.mp hInside
      exact Path.text_cons_ne (hNames entry hEntry) _ hEmpty
  · have hFinds : Finds (.error ⟨[], Form.mismatchReason .object v⟩ : Except Violation Unit)
        (Rule.ofKind .object v) := .of_kind_ne hKind
    obtain rfl := h.unique ((hFinds.first rfl).head _)
    exact iff_of_true rfl hKind

theorem natural_eq_ok_iff {x : Number} : natural v = .ok x ↔ v = .number x ∧ ∃ n, x.index? = some n := by
  constructor
  · intro h
    obtain ⟨y, hNumber, hRest⟩ := bind_eq_ok_iff.mp h
    obtain ⟨rfl, -⟩ := number_eq_ok_iff.mp hNumber
    split at hRest
    · cases hRest
    · rename_i hInteger
      split at hRest
      · cases hRest
      · rename_i hSign
        cases hRest
        rw [Bool.not_eq_true', Bool.not_eq_false] at hInteger
        obtain ⟨i, hInt⟩ := Option.isSome_iff_exists.mp hInteger
        have hNonneg := Number.nonneg_of_not_lt_zero hInt (Bool.eq_false_iff.mpr hSign)
        exact ⟨rfl, i.toNat, by rw [Number.index?_of_toInt? hInt, if_pos hNonneg]⟩
  · rintro ⟨rfl, n, hIndex⟩
    have hInteger : x.isInteger = true := by rw [Number.isInteger, Number.toInt?_of_index? hIndex, Option.isSome_some]
    have hSign : x.lt Number.zero = false := by
      rw [Bool.eq_false_iff, Ne, Number.lt_iff hIndex Number.index?_zero]
      exact Nat.not_lt_zero n
    rw [natural, number_eq_ok_iff.mpr ⟨rfl, isNaN_eq_false_of_isInteger hInteger⟩, ok_bind, hInteger, hSign]
    rfl

theorem string_eq_ok_iff {t : WideText} : string v = .ok t ↔ v = .string t := by
  constructor
  · intro h
    unfold string at h
    split at h
    · cases h
      rfl
    · rw [mismatch_eq] at h
      cases h
  · rintro rfl
    rfl

theorem optional_eq_ok_iff {a? : Option α} :
    optional check v = .ok a? ↔ v = .absent ∧ none = a? ∨ v ≠ .absent ∧ ∃ a, check v = .ok a ∧ some a = a? := by
  cases v with
  | absent => simp [optional]
  | _ => simp [optional, map_eq_ok_iff]

theorem record_eq_ok_iff {l : List (WideText × α)} : record check v = .ok l ↔
    ∃ (fs : Fields) (entries : List (WideText × α)), v = .object fs ∧
      List.Forall₂ (fun e f => e.1 = f.1 ∧ check f.2 = .ok e.2) entries fs ∧
      l = entries.filter (·.1 != .ofString "__proto__") := by
  have hEntry (f : WideText × Value) (e : WideText × α) : (do
      let x ← within (.entry f.1) (check f.2)
      return (f.1, x)) = .ok e ↔ e.1 = f.1 ∧ check f.2 = .ok e.2 := by
    rw [bind_eq_ok_iff]
    constructor
    · rintro ⟨x, hCheck, hPair⟩
      cases hPair
      exact ⟨rfl, within_eq_ok_iff.mp hCheck⟩
    · rintro ⟨hName, hCheck⟩
      exact ⟨e.2, within_eq_ok_iff.mpr hCheck, by rw [← hName]; rfl⟩
  constructor
  · intro h
    obtain ⟨fs, hFields, h⟩ := bind_eq_ok_iff.mp h
    obtain ⟨entries, hEntries, h⟩ := bind_eq_ok_iff.mp h
    cases h
    obtain ⟨hLength, hAll⟩ := mapM_eq_ok_iff.mp hEntries
    refine ⟨fs, entries, fields_eq_ok_iff.mp hFields, List.forall₂_iff_get.mpr ⟨hLength, fun i hi hi' => ?_⟩, rfl⟩
    exact (hEntry _ _).mp (hAll i _ _ (List.getElem?_eq_getElem hi') (List.getElem?_eq_getElem hi))
  · rintro ⟨fs, entries, rfl, hEntries, rfl⟩
    obtain ⟨hLength, hAll⟩ := List.forall₂_iff_get.mp hEntries
    refine bind_eq_ok_iff.mpr ⟨fs, rfl, bind_eq_ok_iff.mpr ⟨entries, mapM_eq_ok_iff.mpr ⟨hLength, ?_⟩, rfl⟩⟩
    intro i f e hf he
    obtain ⟨hi, rfl⟩ := List.getElem?_eq_some_iff.mp he
    obtain ⟨hi', rfl⟩ := List.getElem?_eq_some_iff.mp hf
    exact (hEntry _ _).mpr (hAll i hi hi')

end CubeSlice.Schema
