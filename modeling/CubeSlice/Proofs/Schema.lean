import Mathlib.Data.List.Forall2
import CubeSlice.Number.Natural
import CubeSlice.Proofs.Traversal
import CubeSlice.Schema

/-!
# Forms and their violations

A form says what a data value has to look like. A value violates a form at the steps that lead to one
of its parts, and in a form every violation has its turn: parts come in the order of the fields and of
the items, and what is asked of a number comes in the order kind, integer, sign, size. A check that
follows a form passes the values that violate it nowhere, and fails others with the first violation.
-/

namespace CubeSlice.Schema

open Json (Value Fields)

inductive Form where
  | number
  | count
  | array (item : Form)
  | object (entries : List (String × Form))

namespace Form

def kind : Form → Kind
  | number => .number
  | count => .number
  | array _ => .array
  | object _ => .object

def mismatchReason (expected : Kind) : Value → Reason
  | .absent => .required
  | v => .wrongKind expected (Kind.of v)

/-- The value violates the form, with the turn that this violation takes. -/
inductive Violates : Form → Value → List Nat → Violation → Prop
  | kind {form : Form} {v : Value} (other : Kind.of v ≠ form.kind) :
      Violates form v [] ⟨[], mismatchReason form.kind v⟩
  | notInteger {x : Number} (fraction : x.isInteger = false) :
      Violates count (.number x) [0] ⟨[], .notInteger⟩
  | negative {x : Number} (below : x.lt Number.zero = true) :
      Violates count (.number x) [1] ⟨[], .negative⟩
  | aboveMaximum {x : Number} (above : (Number.ofNat maxSafe).lt x = true) :
      Violates count (.number x) [2] ⟨[], .aboveMaximum⟩
  | item {form : Form} {items : List Value} {i : Nat} {v : Value} {turn : List Nat} {w : Violation}
      (here : items[i]? = some v) (inside : Violates form v turn w) :
      Violates (array form) (.array items) (i :: turn) ⟨.index i :: w.path, w.reason⟩
  | field {entries : List (String × Form)} {fields : Fields} {i : Nat} {name : String} {form : Form}
      {turn : List Nat} {w : Violation} (here : entries[i]? = some (name, form))
      (inside : Violates form ((Value.object fields).field name) turn w) :
      Violates (object entries) (.object fields) (i :: turn) ⟨.key name :: w.path, w.reason⟩

def Fits (form : Form) (v : Value) : Prop := ∀ turn w, ¬ form.Violates v turn w

/-- A turn does not come after another: the first difference decides. -/
inductive NoLater : List Nat → List Nat → Prop
  | start (turn : List Nat) : NoLater [] turn
  | earlier {i j : Nat} {turn turn' : List Nat} (before : i < j) : NoLater (i :: turn) (j :: turn')
  | later {i : Nat} {turn turn' : List Nat} (rest : NoLater turn turn') : NoLater (i :: turn) (i :: turn')

theorem NoLater.refl (turn : List Nat) : NoLater turn turn := by
  induction turn with
  | nil => exact .start []
  | cons i turn ih => exact .later ih

theorem NoLater.antisymm {turn turn' : List Nat} (h : NoLater turn turn') (h' : NoLater turn' turn) :
    turn = turn' := by
  induction h with
  | start turn' => cases h' with | start turn => rfl
  | earlier before =>
    cases h' with
    | earlier after => exact absurd after (Nat.lt_asymm before)
    | later rest => exact absurd before (Nat.lt_irrefl _)
  | later rest ih =>
    cases h' with
    | earlier after => exact absurd after (Nat.lt_irrefl _)
    | later rest' => rw [ih rest']

def FirstViolation (form : Form) (v : Value) (turn : List Nat) (w : Violation) : Prop :=
  form.Violates v turn w ∧ ∀ turn' w', form.Violates v turn' w' → NoLater turn turn'

variable {form : Form} {v : Value} {turn turn' : List Nat} {w w' : Violation}

theorem Violates.unique (h : form.Violates v turn w) (h' : form.Violates v turn w') : w = w' := by
  induction h generalizing w' with
  | kind other => cases h' with | kind other' => rfl
  | notInteger fraction => cases h' with | notInteger fraction' => rfl
  | negative below => cases h' with | negative below' => rfl
  | aboveMaximum above => cases h' with | aboveMaximum above' => rfl
  | item here inside ih =>
    cases h' with
    | item here' inside' =>
      cases Option.some.inj (here.symm.trans here')
      rw [ih inside']
  | field here inside ih =>
    cases h' with
    | field here' inside' =>
      cases Option.some.inj (here.symm.trans here')
      rw [ih inside']

theorem FirstViolation.unique (h : form.FirstViolation v turn w) (h' : form.FirstViolation v turn' w') :
    w = w' := by
  have hTurn : turn = turn' := (h.2 _ _ h'.1).antisymm (h'.2 _ _ h.1)
  exact h.1.unique (hTurn ▸ h'.1)

theorem fits_array {items : List Value} (h : ∀ v ∈ items, form.Fits v) : (array form).Fits (.array items) := by
  intro turn w hViolates
  cases hViolates with
  | kind other => exact other rfl
  | item here inside => exact h _ (List.mem_of_getElem? here) _ _ inside

theorem fits_object {entries : List (String × Form)} {fields : Fields}
    (h : ∀ entry ∈ entries, entry.2.Fits ((Value.object fields).field entry.1)) :
    (object entries).Fits (.object fields) := by
  intro turn w hViolates
  cases hViolates with
  | kind other => exact other rfl
  | field here inside => exact h _ (List.mem_of_getElem? here) _ _ inside

theorem firstViolation_kind (h : Kind.of v ≠ form.kind) :
    form.FirstViolation v [] ⟨[], mismatchReason form.kind v⟩ :=
  ⟨.kind h, fun turn' _ _ => .start turn'⟩

theorem firstViolation_item {items : List Value} {i : Nat} (hItem : items[i]? = some v)
    (h : form.FirstViolation v turn w) (hBefore : ∀ j < i, ∀ u, items[j]? = some u → form.Fits u) :
    (array form).FirstViolation (.array items) (i :: turn) ⟨.index i :: w.path, w.reason⟩ := by
  refine ⟨.item hItem h.1, fun turn' w' hOther => ?_⟩
  cases hOther with
  | kind other => exact absurd rfl other
  | @item _ _ j u turn' w' here inside =>
    rcases Nat.lt_trichotomy i j with hLess | rfl | hMore
    · exact .earlier hLess
    · obtain rfl : v = u := Option.some.inj (hItem.symm.trans here)
      exact .later (h.2 _ _ inside)
    · exact absurd inside (hBefore j hMore u here _ _)

theorem firstViolation_field {entries : List (String × Form)} {fields : Fields} {i : Nat} {name : String}
    (hEntry : entries[i]? = some (name, form))
    (h : form.FirstViolation ((Value.object fields).field name) turn w)
    (hBefore : ∀ j < i, ∀ entry, entries[j]? = some entry →
      entry.2.Fits ((Value.object fields).field entry.1)) :
    (object entries).FirstViolation (.object fields) (i :: turn) ⟨.key name :: w.path, w.reason⟩ := by
  refine ⟨.field hEntry h.1, fun turn' w' hOther => ?_⟩
  cases hOther with
  | kind other => exact absurd rfl other
  | @field _ _ j name' form' turn' w' here inside =>
    rcases Nat.lt_trichotomy i j with hLess | rfl | hMore
    · exact .earlier hLess
    · cases Option.some.inj (hEntry.symm.trans here)
      exact .later (h.2 _ _ inside)
    · exact absurd inside (hBefore j hMore _ here _ _)

end Form

open Traversal

/-- The check passes what fits the form, and fails with the first violation. -/
structure Follows {α : Type} (check : Check α) (form : Form) : Prop where
  fits : ∀ {v a}, check v = .ok a → form.Fits v
  first : ∀ {v w}, check v = .error w → ∃ turn, form.FirstViolation v turn w

section Leaves

theorem mismatch_eq {α : Type} (expected : Kind) (v : Value) :
    (mismatch expected v : Except Violation α) = .error ⟨[], Form.mismatchReason expected v⟩ := by
  cases v <;> rfl

theorem number_eq_ok_iff {v : Value} {x : Number} :
    number v = .ok x ↔ v = .number x ∧ x.isNaN = false := by
  constructor
  · intro h
    unfold number at h
    split at h
    · split at h
      · cases h
      · rename_i hNumber
        cases h
        exact ⟨rfl, Bool.eq_false_iff.mpr hNumber⟩
    · rw [mismatch_eq] at h
      cases h
  · rintro ⟨rfl, hNumber⟩
    rw [number, if_neg (by rw [hNumber]; exact Bool.false_ne_true)]

theorem kind_eq_number_iff {v : Value} : Kind.of v = .number ↔ ∃ x, v = .number x ∧ x.isNaN = false := by
  constructor
  · intro h
    cases v with
    | number x =>
      refine ⟨x, rfl, Bool.eq_false_iff.mpr fun hNaN => ?_⟩
      rw [Kind.of, if_pos hNaN] at h
      cases h
    | _ => cases h
  · rintro ⟨x, rfl, hNumber⟩
    rw [Kind.of, if_neg (by rw [hNumber]; exact Bool.false_ne_true)]

theorem number_of_kind_ne {v : Value} (h : Kind.of v ≠ .number) :
    number v = .error ⟨[], Form.mismatchReason .number v⟩ := by
  unfold number
  split
  · rename_i x
    have hNaN : x.isNaN = true := by
      by_contra hNumber
      exact h (kind_eq_number_iff.mpr ⟨x, rfl, Bool.eq_false_iff.mpr hNumber⟩)
    rw [if_pos hNaN, mismatch_eq]
  · exact mismatch_eq .number _

theorem number_follows : Follows number .number where
  fits := by
    rintro v x h turn w hViolates
    obtain ⟨rfl, hNumber⟩ := number_eq_ok_iff.mp h
    cases hViolates with
    | kind other => exact other (kind_eq_number_iff.mpr ⟨x, rfl, hNumber⟩)
  first := by
    intro v w h
    by_cases hKind : Kind.of v = .number
    · obtain ⟨x, rfl, hNumber⟩ := kind_eq_number_iff.mp hKind
      rw [number_eq_ok_iff.mpr ⟨rfl, hNumber⟩] at h
      cases h
    · rw [number_of_kind_ne hKind] at h
      cases h
      exact ⟨[], Form.firstViolation_kind hKind⟩

theorem isInteger_of_isSafeInteger {x : Number} (h : x.isSafeInteger = true) : x.isInteger = true := by
  unfold Number.isSafeInteger at h
  split at h
  · rename_i i hInt
    rw [Number.isInteger, hInt, Option.isSome_some]
  · cases h

theorem isNaN_eq_false_of_isInteger {x : Number} (h : x.isInteger = true) : x.isNaN = false := by
  cases x with
  | nan => cases h
  | infinite s => rfl
  | finite s n held => rfl

theorem isSafeInteger_iff_not_above {x : Number} (hInteger : x.isInteger = true)
    (hSign : x.lt Number.zero = false) :
    x.isSafeInteger = true ↔ ¬ (Number.ofNat maxSafe).lt x = true := by
  obtain ⟨i, hInt⟩ := Option.isSome_iff_exists.mp hInteger
  have hIndex : x.index? = some i.toNat := by
    rw [Number.index?_of_toInt? hInt, if_pos (Number.nonneg_of_not_lt_zero hInt hSign)]
  rw [Number.isSafeInteger_iff hIndex,
    Number.lt_iff (Number.index?_ofNat (Number.le_exactLimit (Nat.le_refl _))) hIndex, Nat.not_lt]

theorem count_number {x : Number} (hNaN : x.isNaN = false) : count (.number x) =
    if x.isInteger = false then .error ⟨[], .notInteger⟩
    else if x.lt Number.zero = true then .error ⟨[], .negative⟩
    else match Count.ofNumber? x with
      | some c => .ok c
      | none => .error ⟨[], .aboveMaximum⟩ := by
  rw [count, natural, number_eq_ok_iff.mpr ⟨rfl, hNaN⟩, ok_bind]
  cases x.isInteger with
  | false => rfl
  | true =>
    cases x.lt Number.zero with
    | true => rfl
    | false => rfl

theorem count_eq_ok_iff {v : Value} {c : Count} : count v = .ok c ↔ v = .number c.number := by
  constructor
  · intro h
    obtain ⟨x, hNatural, hCount⟩ := bind_eq_ok_iff.mp h
    obtain ⟨y, hNumber, -⟩ := bind_eq_ok_iff.mp hNatural
    obtain ⟨rfl, hNaN⟩ := number_eq_ok_iff.mp hNumber
    rw [count_number hNaN] at h
    split at h
    · cases h
    · split at h
      · cases h
      · split at h
        · rename_i c' hSome
          cases h
          unfold Count.ofNumber? at hSome
          split at hSome
          · cases hSome
            rfl
          · cases hSome
        · cases h
  · rintro rfl
    have hInteger := isInteger_of_isSafeInteger c.isSafe
    rw [count_number (isNaN_eq_false_of_isInteger hInteger), hInteger, c.notNegative,
      Count.ofNumber?_number]
    rfl

section FirstOfCount

variable {x : Number} (hKind : Kind.of (.number x) = .number)

include hKind

theorem firstViolation_notInteger (h : x.isInteger = false) :
    Form.count.FirstViolation (.number x) [0] ⟨[], .notInteger⟩ := by
  refine ⟨.notInteger h, fun turn' w' hOther => ?_⟩
  cases hOther with
  | kind other => exact absurd hKind other
  | notInteger fraction => exact .refl _
  | negative below => exact .earlier (by decide)
  | aboveMaximum above => exact .earlier (by decide)

theorem firstViolation_negative (hInteger : ¬ x.isInteger = false) (h : x.lt Number.zero = true) :
    Form.count.FirstViolation (.number x) [1] ⟨[], .negative⟩ := by
  refine ⟨.negative h, fun turn' w' hOther => ?_⟩
  cases hOther with
  | kind other => exact absurd hKind other
  | notInteger fraction => exact absurd fraction hInteger
  | negative below => exact .refl _
  | aboveMaximum above => exact .earlier (by decide)

theorem firstViolation_aboveMaximum (hInteger : ¬ x.isInteger = false) (hSign : ¬ x.lt Number.zero = true)
    (h : (Number.ofNat maxSafe).lt x = true) :
    Form.count.FirstViolation (.number x) [2] ⟨[], .aboveMaximum⟩ := by
  refine ⟨.aboveMaximum h, fun turn' w' hOther => ?_⟩
  cases hOther with
  | kind other => exact absurd hKind other
  | notInteger fraction => exact absurd fraction hInteger
  | negative below => exact absurd below hSign
  | aboveMaximum above => exact .refl _

end FirstOfCount

theorem above_of_ofNumber?_eq_none {x : Number} (hInteger : ¬ x.isInteger = false)
    (hSign : ¬ x.lt Number.zero = true) (h : Count.ofNumber? x = none) :
    (Number.ofNat maxSafe).lt x = true := by
  by_contra hNo
  have hPlus := Bool.eq_false_iff.mpr hSign
  have hSafe := (isSafeInteger_iff_not_above (Bool.not_eq_false _ ▸ hInteger) hPlus).mpr hNo
  rw [Count.ofNumber?, dif_pos ⟨hSafe, hPlus⟩] at h
  cases h

theorem count_follows : Follows count .count where
  fits := by
    rintro v c h turn w hViolates
    obtain rfl := count_eq_ok_iff.mp h
    have hInteger := isInteger_of_isSafeInteger c.isSafe
    cases hViolates with
    | kind other => exact other (kind_eq_number_iff.mpr ⟨_, rfl, isNaN_eq_false_of_isInteger hInteger⟩)
    | notInteger fraction =>
      rw [hInteger] at fraction
      cases fraction
    | negative below =>
      rw [c.notNegative] at below
      cases below
    | aboveMaximum above => exact (isSafeInteger_iff_not_above hInteger c.notNegative).mp c.isSafe above
  first := by
    intro v w h
    by_cases hKind : Kind.of v = .number
    · obtain ⟨x, rfl, hNaN⟩ := kind_eq_number_iff.mp hKind
      rw [count_number hNaN] at h
      split at h
      · rename_i hFraction
        cases h
        exact ⟨[0], firstViolation_notInteger hKind hFraction⟩
      · rename_i hInteger
        split at h
        · rename_i hBelow
          cases h
          exact ⟨[1], firstViolation_negative hKind hInteger hBelow⟩
        · rename_i hSign
          split at h
          · cases h
          · rename_i hNone
            cases h
            exact ⟨[2], firstViolation_aboveMaximum hKind hInteger hSign
              (above_of_ofNumber?_eq_none hInteger hSign hNone)⟩
    · rw [count, natural, number_of_kind_ne hKind] at h
      cases h
      exact ⟨[], Form.firstViolation_kind hKind⟩

end Leaves

section Parts

variable {α : Type} {step : Step} {check : Check α} {form : Form}

theorem kind_number_ne {x : Number} {kind : Kind} (hNumber : kind ≠ .number) (hNaN : kind ≠ .nan) :
    Kind.of (.number x) ≠ kind := by
  rw [Kind.of]
  split
  · exact hNaN.symm
  · exact hNumber.symm

theorem kind_eq_array_iff {v : Value} : Kind.of v = .array ↔ ∃ vs, v = .array vs := by
  constructor
  · intro h
    cases v with
    | array vs => exact ⟨vs, rfl⟩
    | number x => exact absurd h (kind_number_ne Kind.noConfusion Kind.noConfusion)
    | _ => cases h
  · rintro ⟨vs, rfl⟩
    rfl

theorem kind_eq_object_iff {v : Value} : Kind.of v = .object ↔ ∃ fs, v = .object fs := by
  constructor
  · intro h
    cases v with
    | object fs => exact ⟨fs, rfl⟩
    | number x => exact absurd h (kind_number_ne Kind.noConfusion Kind.noConfusion)
    | _ => cases h
  · rintro ⟨fs, rfl⟩
    rfl

theorem within_eq_ok_iff {result : Except Violation α} {a : α} :
    within step result = .ok a ↔ result = .ok a := by
  cases result <;> simp [within, Except.mapError]

theorem within_eq_error_iff {result : Except Violation α} {w : Violation} :
    within step result = .error w ↔ ∃ w', result = .error w' ∧ w = ⟨step :: w'.path, w'.reason⟩ := by
  cases result with
  | ok a => simp [within, Except.mapError]
  | error w' => simp [within, Except.mapError, eq_comm]

theorem items_eq_ok_iff {v : Value} {l : List α} : items check v = .ok l ↔
    ∃ vs, v = .array vs ∧ List.Forall₂ (fun a u => check u = .ok a) l vs := by
  constructor
  · intro h
    unfold items at h
    split at h
    · rename_i vs
      obtain ⟨hLength, hItems⟩ := mapM_zipIdx_eq_ok_iff.mp h
      refine ⟨vs, rfl, List.forall₂_iff_get.mpr ⟨hLength, fun i hi hi' => ?_⟩⟩
      have hItem := hItems i _ _ (List.getElem?_eq_getElem hi') (List.getElem?_eq_getElem hi)
      exact within_eq_ok_iff.mp hItem
    · rw [mismatch_eq] at h
      cases h
  · rintro ⟨vs, rfl, hItems⟩
    obtain ⟨hLength, hItems⟩ := List.forall₂_iff_get.mp hItems
    refine mapM_zipIdx_eq_ok_iff.mpr ⟨hLength, fun i u a hu ha => ?_⟩
    obtain ⟨hi, rfl⟩ := List.getElem?_eq_some_iff.mp ha
    obtain ⟨hi', rfl⟩ := List.getElem?_eq_some_iff.mp hu
    exact within_eq_ok_iff.mpr (hItems i hi hi')

theorem items_number_eq_ok_iff {v : Value} {xs : List Number} : items number v = .ok xs ↔
    v = .array (xs.map .number) ∧ ∀ x ∈ xs, x.isNaN = false := by
  have hNumbers {vs : List Value} : List.Forall₂ (fun a u => number u = .ok a) xs vs ↔
      vs = xs.map .number ∧ ∀ x ∈ xs, x.isNaN = false := by
    induction xs generalizing vs with
    | nil => simp [List.forall₂_nil_left_iff]
    | cons x xs ih =>
      rw [List.forall₂_cons_left_iff]
      constructor
      · rintro ⟨u, us, hNumber, hRest, rfl⟩
        obtain ⟨rfl, hHead⟩ := number_eq_ok_iff.mp hNumber
        obtain ⟨rfl, hTail⟩ := ih.mp hRest
        exact ⟨rfl, List.forall_mem_cons.mpr ⟨hHead, hTail⟩⟩
      · rintro ⟨rfl, hAll⟩
        obtain ⟨hHead, hTail⟩ := List.forall_mem_cons.mp hAll
        exact ⟨_, _, number_eq_ok_iff.mpr ⟨rfl, hHead⟩, ih.mpr ⟨rfl, hTail⟩, rfl⟩
  rw [items_eq_ok_iff]
  constructor
  · rintro ⟨vs, rfl, hItems⟩
    obtain ⟨rfl, hAll⟩ := hNumbers.mp hItems
    exact ⟨rfl, hAll⟩
  · rintro ⟨rfl, hAll⟩
    exact ⟨_, rfl, hNumbers.mpr ⟨rfl, hAll⟩⟩

theorem items_array_eq_error_iff {vs : List Value} {w : Violation} : items check (.array vs) = .error w ↔
    ∃ i u w', vs[i]? = some u ∧ check u = .error w' ∧ (∀ j < i, ∀ u, vs[j]? = some u → ∃ a, check u = .ok a) ∧
      w = ⟨.index i :: w'.path, w'.reason⟩ := by
  rw [items, mapM_zipIdx_eq_error_iff]
  constructor
  · rintro ⟨i, u, hItem, hFail, hBefore⟩
    obtain ⟨w', hCheck, rfl⟩ := within_eq_error_iff.mp hFail
    refine ⟨i, u, w', hItem, hCheck, fun j hj u' hItem' => ?_, rfl⟩
    obtain ⟨a, hOk⟩ := hBefore j hj u' hItem'
    exact ⟨a, within_eq_ok_iff.mp hOk⟩
  · rintro ⟨i, u, w', hItem, hCheck, hBefore, rfl⟩
    refine ⟨i, u, hItem, within_eq_error_iff.mpr ⟨w', hCheck, rfl⟩, fun j hj u' hItem' => ?_⟩
    obtain ⟨a, hOk⟩ := hBefore j hj u' hItem'
    exact ⟨a, within_eq_ok_iff.mpr hOk⟩

theorem items_of_kind_ne {v : Value} (h : Kind.of v ≠ .array) :
    items check v = .error ⟨[], Form.mismatchReason .array v⟩ := by
  unfold items
  split
  · exact absurd rfl h
  · exact mismatch_eq .array _

theorem fields_eq_ok_iff {v : Value} {fs : Fields} : fields v = .ok fs ↔ v = .object fs := by
  constructor
  · intro h
    unfold fields at h
    split at h
    · cases h
      rfl
    · rw [mismatch_eq] at h
      cases h
  · rintro rfl
    rfl

theorem items_follows (h : Follows check form) : Follows (items check) (.array form) where
  fits := by
    intro v l hOk
    obtain ⟨vs, rfl, hItems⟩ := items_eq_ok_iff.mp hOk
    refine Form.fits_array fun u hMem => ?_
    obtain ⟨i, hi, rfl⟩ := List.getElem_of_mem hMem
    obtain ⟨hLength, hChecks⟩ := List.forall₂_iff_get.mp hItems
    have hCheck := hChecks i (hLength.symm ▸ hi) hi
    exact h.fits hCheck
  first := by
    intro v w hError
    by_cases hKind : Kind.of v = .array
    · obtain ⟨vs, rfl⟩ := kind_eq_array_iff.mp hKind
      obtain ⟨i, u, w', hItem, hCheck, hBefore, rfl⟩ := items_array_eq_error_iff.mp hError
      obtain ⟨turn, hFirst⟩ := h.first hCheck
      refine ⟨i :: turn, Form.firstViolation_item hItem hFirst fun j hj u' hItem' => ?_⟩
      obtain ⟨a, hOk⟩ := hBefore j hj u' hItem'
      exact h.fits hOk
    · rw [items_of_kind_ne hKind] at hError
      cases hError
      exact ⟨[], Form.firstViolation_kind hKind⟩

variable {fs : Fields} {name : String}

theorem fits_of_field {a : α} (h : Follows check form) (hOk : field fs name check = .ok a) :
    form.Fits ((Value.object fs).field name) :=
  h.fits (within_eq_ok_iff.mp hOk)

theorem first_of_field {w : Violation} (h : Follows check form) (hError : field fs name check = .error w) :
    ∃ turn w', form.FirstViolation ((Value.object fs).field name) turn w' ∧
      w = ⟨.key name :: w'.path, w'.reason⟩ := by
  obtain ⟨w', hCheck, rfl⟩ := within_eq_error_iff.mp hError
  obtain ⟨turn, hFirst⟩ := h.first hCheck
  exact ⟨turn, w', hFirst, rfl⟩

theorem fields_follows {entries : List (String × Form)} {check : Fields → Except Violation α}
    (hFits : ∀ fs a, check fs = .ok a → (Form.object entries).Fits (.object fs))
    (hFirst : ∀ fs w, check fs = .error w → ∃ turn, (Form.object entries).FirstViolation (.object fs) turn w) :
    Follows (fun v => fields v >>= check) (.object entries) where
  fits := by
    intro v a hOk
    obtain ⟨fs, hFields, hCheck⟩ := bind_eq_ok_iff.mp hOk
    rw [fields_eq_ok_iff.mp hFields]
    exact hFits fs a hCheck
  first := by
    intro v w hError
    by_cases hKind : Kind.of v = .object
    · obtain ⟨fs, rfl⟩ := kind_eq_object_iff.mp hKind
      exact hFirst fs w hError
    · have hFields : fields v = .error ⟨[], Form.mismatchReason .object v⟩ := by
        unfold fields
        split
        · exact absurd rfl hKind
        · exact mismatch_eq .object _
      rw [hFields] at hError
      cases hError
      exact ⟨[], Form.firstViolation_kind hKind⟩

end Parts

end CubeSlice.Schema
