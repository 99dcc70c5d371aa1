import CubeSlice.Failure
import CubeSlice.Number.Shortest
import CubeSlice.Proofs.Schema
import CubeSlice.Proofs.Tile.Layout

/-!
# What a payload is

Reading a payload gives one tile for each item of its `tiles`, with the five fields of the layout and
the values as they stand; whatever else there is goes unread. A value that is no payload is refused
for its first violation. One that lies inside a layout names the tile and the field.
-/

namespace CubeSlice

open Json (Value)
open Schema Traversal

section Text

attribute [local irreducible] unitsInOne

theorem Number.text_ofNat {n : Nat} (h : n ≤ maxSafe) : (Number.ofNat n).text = toString n := by
  have hHeld := Number.holds_natural (Number.le_exactLimit h)
  have hFinite : Number.ofNat n = .finite false (n * unitsInOne) hHeld := Number.ofUnits_of_holds false hHeld
  rw [hFinite, Number.text]
  rcases Nat.eq_zero_or_pos n with rfl | hPos
  · rw [if_pos (Nat.zero_mul _)]
    rfl
  · have hQuotient : n * unitsInOne / unitsInOne = n := Nat.mul_div_cancel n unitsInOne_pos
    have hMagnitude (x : Number) : Number.magnitudeText (n * unitsInOne) x = toString n := by
      rw [Number.magnitudeText, hQuotient, if_pos ⟨Nat.mul_mod_left _ _, h⟩]
    have hUnits : n * unitsInOne ≠ 0 := Nat.mul_ne_zero (Nat.ne_of_gt hPos) (Nat.ne_of_gt unitsInOne_pos)
    rw [if_neg hUnits, if_neg Bool.false_ne_true, hMagnitude, String.empty_append]

end Text

/-- What the value holds is the tile. Only objects have fields. -/
structure Tile.ReadFrom (t : Tile) (v : Value) : Prop where
  layout : ∀ f : Layout.Field, (v.field "layout").field f.name = .number (t.layout.get f).number
  values : v.field "v" = .array (t.values.toList.map .number)
  numbers : ∀ x ∈ t.values.toList, x.isNaN = false

namespace Payload

/-- The value is a payload of these tiles. -/
def Describes (v : Value) (tiles : List Tile) : Prop :=
  ∃ items, v.field "tiles" = .array items ∧ List.Forall₂ Tile.ReadFrom tiles items

def layoutForm : Form := .object (Layout.Field.all.map fun f => (f.name, .count))

def tileForm : Form := .object [("layout", layoutForm), ("v", .array .number)]

def form : Form := .object [("tiles", .array tileForm)]

variable {v : Value}

theorem exists_fields {u : Value} {name : String} (h : v.field name = u) (hPresent : u ≠ .absent) :
    ∃ fs, v = .object fs := by
  cases v with
  | object fs => exact ⟨fs, rfl⟩
  | _ => exact absurd h.symm hPresent

theorem layoutCheck_eq_ok_iff {l : Layout} :
    layoutCheck v = .ok l ↔ ∀ f : Layout.Field, v.field f.name = .number (l.get f).number := by
  constructor
  · intro h f
    obtain ⟨fs, hFields, hLayout⟩ := bind_eq_ok_iff.mp h
    rw [fields_eq_ok_iff.mp hFields]
    exact count_eq_ok_iff.mp (within_eq_ok_iff.mp (Strided.ofFieldsM_eq_ok_iff.mp hLayout f))
  · intro h
    obtain ⟨fs, rfl⟩ := exists_fields (h .initialSkip) Value.noConfusion
    refine bind_eq_ok_iff.mpr ⟨fs, rfl, Strided.ofFieldsM_eq_ok_iff.mpr fun f => ?_⟩
    exact within_eq_ok_iff.mpr (count_eq_ok_iff.mpr (h f))

theorem tileCheck_eq_ok_iff {t : Tile} : tileCheck v = .ok t ↔ t.ReadFrom v := by
  constructor
  · intro h
    obtain ⟨fs, hFields, h⟩ := bind_eq_ok_iff.mp h
    obtain ⟨l, hLayout, h⟩ := bind_eq_ok_iff.mp h
    obtain ⟨xs, hValues, h⟩ := bind_eq_ok_iff.mp h
    cases h
    obtain rfl := fields_eq_ok_iff.mp hFields
    obtain ⟨hArray, hNumbers⟩ := items_number_eq_ok_iff.mp (within_eq_ok_iff.mp hValues)
    exact ⟨layoutCheck_eq_ok_iff.mp (within_eq_ok_iff.mp hLayout), hArray, hNumbers⟩
  · rintro ⟨hLayout, hArray, hNumbers⟩
    obtain ⟨fs, rfl⟩ := exists_fields hArray Value.noConfusion
    refine bind_eq_ok_iff.mpr ⟨fs, rfl, bind_eq_ok_iff.mpr ⟨t.layout, ?_, ?_⟩⟩
    · exact within_eq_ok_iff.mpr (layoutCheck_eq_ok_iff.mpr hLayout)
    · refine bind_eq_ok_iff.mpr ⟨t.values.toList, ?_, rfl⟩
      exact within_eq_ok_iff.mpr (items_number_eq_ok_iff.mpr ⟨hArray, hNumbers⟩)

theorem check_eq_ok_iff {tiles : List Tile} : check v = .ok tiles ↔ Describes v tiles := by
  constructor
  · intro h
    obtain ⟨fs, hFields, h⟩ := bind_eq_ok_iff.mp h
    obtain rfl := fields_eq_ok_iff.mp hFields
    obtain ⟨items, hItems, hTiles⟩ := items_eq_ok_iff.mp (within_eq_ok_iff.mp h)
    exact ⟨items, hItems, hTiles.imp fun t u => tileCheck_eq_ok_iff.mp⟩
  · rintro ⟨items, hItems, hTiles⟩
    obtain ⟨fs, rfl⟩ := exists_fields hItems Value.noConfusion
    refine bind_eq_ok_iff.mpr ⟨fs, rfl, within_eq_ok_iff.mpr (items_eq_ok_iff.mpr ⟨items, hItems, ?_⟩)⟩
    exact hTiles.imp fun t u => tileCheck_eq_ok_iff.mpr

theorem getElem?_layoutEntries {i : Nat} {entry : String × Form} :
    (Layout.Field.all.map fun f => (f.name, Form.count))[i]? = some entry ↔
      ∃ f : Layout.Field, i = f.position ∧ entry = (f.name, .count) := by
  rw [List.getElem?_map, Option.map_eq_some_iff]
  constructor
  · rintro ⟨f, hField, rfl⟩
    exact ⟨f, Layout.Field.getElem?_all.mp hField, rfl⟩
  · rintro ⟨f, hField, rfl⟩
    exact ⟨f, Layout.Field.getElem?_all.mpr hField, rfl⟩

theorem layoutCheck_follows : Follows layoutCheck layoutForm := by
  refine fields_follows (fun fs l hOk => Form.fits_object ?_) fun fs w hError => ?_
  · intro entry hMem
    obtain ⟨i, hEntry⟩ := List.mem_iff_getElem?.mp hMem
    obtain ⟨f, -, rfl⟩ := getElem?_layoutEntries.mp hEntry
    exact fits_of_field count_follows (Strided.ofFieldsM_eq_ok_iff.mp hOk f)
  · obtain ⟨f, hFail, hBefore⟩ := Strided.ofFieldsM_eq_error_iff.mp hError
    obtain ⟨turn, w', hFirst, rfl⟩ := first_of_field count_follows hFail
    refine ⟨f.position :: turn, Form.firstViolation_field (getElem?_layoutEntries.mpr ⟨f, rfl, rfl⟩) hFirst ?_⟩
    intro j hj entry hEntry
    obtain ⟨g, rfl, rfl⟩ := getElem?_layoutEntries.mp hEntry
    obtain ⟨c, hOk⟩ := hBefore g hj
    exact fits_of_field count_follows hOk

theorem tileCheck_follows : Follows tileCheck tileForm := by
  have hValues := items_follows number_follows
  refine fields_follows (fun fs t hOk => Form.fits_object ?_) fun fs w hError => ?_
  · obtain ⟨l, hLayout, hOk⟩ := bind_eq_ok_iff.mp hOk
    obtain ⟨xs, hArray, -⟩ := bind_eq_ok_iff.mp hOk
    simp only [List.forall_mem_cons]
    exact ⟨fits_of_field layoutCheck_follows hLayout, fits_of_field hValues hArray, by simp⟩
  · rcases bind_eq_error_iff.mp hError with hLayout | ⟨l, hLayout, hError⟩
    · obtain ⟨turn, w', hFirst, rfl⟩ := first_of_field layoutCheck_follows hLayout
      exact ⟨0 :: turn, Form.firstViolation_field rfl hFirst fun j hj => absurd hj (Nat.not_lt_zero j)⟩
    · rcases bind_eq_error_iff.mp hError with hArray | ⟨xs, -, hNone⟩
      · obtain ⟨turn, w', hFirst, rfl⟩ := first_of_field hValues hArray
        refine ⟨1 :: turn, Form.firstViolation_field rfl hFirst fun j hj entry hEntry => ?_⟩
        obtain rfl := Nat.lt_one_iff.mp hj
        cases hEntry
        exact fits_of_field layoutCheck_follows hLayout
      · cases hNone

theorem check_follows : Follows check form := by
  have hTiles := items_follows tileCheck_follows
  refine fields_follows (fun fs tiles hOk => Form.fits_object ?_) fun fs w hError => ?_
  · intro entry hMem
    obtain rfl := List.mem_singleton.mp hMem
    exact fits_of_field hTiles hOk
  · obtain ⟨turn, w', hFirst, rfl⟩ := first_of_field hTiles hError
    exact ⟨0 :: turn, Form.firstViolation_field rfl hFirst fun j hj => absurd hj (Nat.not_lt_zero j)⟩

def layoutSteps (i : Nat) (field? : Option Layout.Field) : Path :=
  [.key "tiles", .index i, .key "layout"] ++ (field?.map fun f => .key f.name).toList

def nameOf (field? : Option Layout.Field) : String := field?.elim "" Layout.Field.name

def Outside (path : Path) : Prop := ∀ i rest, path ≠ .key "tiles" :: .index i :: .key "layout" :: rest

theorem path_of_count {turn : List Nat} {w : Violation} (h : Form.count.Violates v turn w) : w.path = [] := by
  cases h with
  | kind other => rfl
  | notInteger fraction => rfl
  | negative below => rfl
  | aboveMaximum above => rfl

theorem path_of_layoutForm {turn : List Nat} {w : Violation} (h : layoutForm.Violates v turn w) :
    ∃ field? : Option Layout.Field, w.path = (field?.map fun f => Step.key f.name).toList := by
  cases h with
  | kind other => exact ⟨none, rfl⟩
  | field here inside =>
    obtain ⟨f, -, hEntry⟩ := getElem?_layoutEntries.mp here
    cases hEntry
    exact ⟨some f, congrArg (Step.key f.name :: ·) (path_of_count inside)⟩

theorem path_of_tileForm {turn : List Nat} {w : Violation} (h : tileForm.Violates v turn w) :
    (∃ field? : Option Layout.Field,
      w.path = .key "layout" :: (field?.map fun f => Step.key f.name).toList) ∨
    ∀ rest, w.path ≠ .key "layout" :: rest := by
  cases h with
  | kind other => exact .inr fun rest hPath => (by cases hPath)
  | @field _ _ i name form turn w here inside =>
    match i, here with
    | 0, here =>
      cases here
      obtain ⟨field?, hPath⟩ := path_of_layoutForm inside
      exact .inl ⟨field?, congrArg (Step.key "layout" :: ·) hPath⟩
    | 1, here =>
      cases here
      refine .inr fun rest hPath => ?_
      have hName : "v" = "layout" := Step.key.inj (List.cons.inj hPath).1
      exact absurd hName (by decide)

theorem path_of_tiles {turn : List Nat} {w : Violation} (h : (Form.array tileForm).Violates v turn w) :
    (∃ i field?, .key "tiles" :: w.path = layoutSteps i field?) ∨ Outside (.key "tiles" :: w.path) := by
  cases h with
  | kind other => exact .inr fun i rest hPath => (by cases hPath)
  | @item _ _ n u turn w here inside =>
    rcases path_of_tileForm inside with ⟨field?, hPath⟩ | hOther
    · exact .inl ⟨n, field?, congrArg (fun path => Step.key "tiles" :: Step.index n :: path) hPath⟩
    · refine .inr fun i rest hPath => hOther rest ?_
      exact (List.cons.inj (List.cons.inj hPath).2).2

theorem path_of_form {turn : List Nat} {w : Violation} (h : form.Violates v turn w) :
    (∃ i field?, w.path = layoutSteps i field?) ∨ Outside w.path := by
  cases h with
  | kind other => exact .inr fun i rest hPath => (by cases hPath)
  | @field _ _ i name form turn w here inside =>
    match i, here with
    | 0, here =>
      cases here
      exact path_of_tiles inside

namespace Error

/-- How a violation is told, and under which name: inside a layout by the tile and the field. -/
inductive Tells : Error → Violation → String → Prop
  | inLayout (i : Nat) (field? : Option Layout.Field) (reason : Reason) :
      Tells (.layout (Number.ofNat i) (nameOf field?) reason)
        ⟨layoutSteps i field?, reason⟩ "MalformedLayoutError"
  | elsewhere {path : Path} {reason : Reason} (outside : Outside path) :
      Tells (.elsewhere path reason) ⟨path, reason⟩ "MalformedPayloadError"

theorem ofViolation_of_outside {w : Violation} (h : Outside w.path) :
    ofViolation w = .elsewhere w.path w.reason := by
  unfold ofViolation
  split
  · rename_i i hPath
    exact absurd hPath (h i [])
  · rename_i i f hPath
    exact absurd hPath (h i [.key f])
  · rfl

variable {e : Error} {w : Violation} {name : String}

theorem Tells.eq_ofViolation (h : e.Tells w name) : e = ofViolation w := by
  cases h with
  | inLayout i field? reason =>
    cases field? with
    | none => rfl
    | some f => rfl
  | @elsewhere path reason outside => exact (@ofViolation_of_outside ⟨path, reason⟩ outside).symm

theorem Tells.name_eq (h : e.Tells w name) : (Failure.payload e).name = name := by
  cases h with
  | inLayout i field? reason => rfl
  | elsewhere outside => rfl

theorem exists_tells {turn : List Nat} (h : form.Violates v turn w) : ∃ name, (ofViolation w).Tells w name := by
  rcases path_of_form h with ⟨i, field?, hPath⟩ | hOutside
  · have hTells := Tells.inLayout i field? w.reason
    rw [← hPath] at hTells
    exact ⟨_, hTells.eq_ofViolation ▸ hTells⟩
  · rw [ofViolation_of_outside hOutside]
    exact ⟨_, .elsewhere hOutside⟩

end Error

theorem layoutPath_ofNat {i : Nat} (h : i ≤ maxSafe) (field? : Option Layout.Field) :
    layoutPath (Number.ofNat i) (nameOf field?) =
      "tiles." ++ toString i ++ ".layout" ++ field?.elim "" fun f => "." ++ f.name := by
  rw [layoutPath, Number.text_ofNat h]
  cases field? with
  | none => rfl
  | some f =>
    have hName : f.name ≠ "" := by cases f <;> decide
    exact congrArg _ (if_neg hName)

/-- Reading a payload gives the tiles that the value describes, or tells its first violation. What
lies inside a layout is told by tile and field, and everything else by its path. -/
theorem parse_outcome (v : Value) :
    (∀ tiles, parse v = .ok tiles ↔ Describes v tiles) ∧
    (∀ e, parse v = .error e ↔ ∃ turn w name, form.FirstViolation v turn w ∧ e.Tells w name ∧
      (Failure.payload e).name = name) ∧
    ∀ i ≤ maxSafe, ∀ field? : Option Layout.Field, layoutPath (Number.ofNat i) (nameOf field?) =
      "tiles." ++ toString i ++ ".layout" ++ field?.elim "" fun f => "." ++ f.name := by
  refine ⟨fun tiles => ?_, fun e => ?_, fun i hi field? => layoutPath_ofNat hi field?⟩
  · rw [← check_eq_ok_iff, parse]
    cases check v with
    | ok tiles' => simp only [Except.mapError, Except.ok.injEq]
    | error w => exact ⟨fun h => (by cases h), fun h => (by cases h)⟩
  · unfold parse
    cases hCheck : check v with
    | ok tiles =>
      refine ⟨fun h => (by cases h), ?_⟩
      rintro ⟨turn, w, name, hFirst, -⟩
      exact absurd hFirst.1 (check_follows.fits hCheck turn w)
    | error w =>
      obtain ⟨turn, hFirst⟩ := check_follows.first hCheck
      obtain ⟨name, hTells⟩ := Error.exists_tells hFirst.1
      constructor
      · intro h
        obtain rfl : Error.ofViolation w = e := Except.error.inj h
        exact ⟨turn, w, name, hFirst, hTells, hTells.name_eq⟩
      · rintro ⟨turn', w', name', hFirst', hTells', -⟩
        obtain rfl := hFirst.unique hFirst'
        exact congrArg Except.error hTells'.eq_ofViolation.symm

end Payload

end CubeSlice
