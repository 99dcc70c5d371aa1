import CubeSlice.Proofs.Calls
import CubeSlice.Proofs.Json.Arrangement
import CubeSlice.Proofs.Json.Ordered
import CubeSlice.Proofs.Rules

/-!
# What the service tells about cubes

A listing and a description are read from a body with exactly the entries, dimensions and texts that stand there;
whatever else there is goes unread. A body that is neither is refused for what it violates first, by the path that leads
there. Entries are looked at in property order, in which every body is read.
-/

namespace CubeSlice

open Json (Value)
open Schema Traversal

namespace Cube

/-- The value is an object of strings, and these are its entries; one named `__proto__` is left out. -/
def Lists (v : Value) (entries : List (WideText × WideText)) : Prop :=
  ∃ all : List (WideText × WideText), v = .object (all.map fun entry => (entry.1, .string entry.2)) ∧
    entries = all.filter (·.1 != .ofString "__proto__")

/-- What the value holds is the dimension. Only objects have fields. -/
structure Dimension.ReadFrom (d : Dimension) (v : Value) : Prop where
  dimension : v.field "dimension" = .number d.dimension ∧ ∃ n, d.dimension.index? = some n
  size : v.field "size" = .number d.size ∧ ∃ n, d.size.index? = some n
  keys : v.field "keys" = .array (d.keys.map .number) ∧ ∀ x ∈ d.keys, x.isNaN = false

structure Description.ReadFrom (d : Description) (v : Value) : Prop where
  functions : Lists (v.field "functions") d.functions
  dimensions : ∃ items, v.field "dimensions" = .array items ∧ List.Forall₂ Dimension.ReadFrom d.dimensions items
  pid : v.field "pid" = d.pid.elim .absent .string

def listingRule : Rule := .object [("links", .record .string)]

def dimensionRule : Rule := .object [("dimension", .natural), ("size", .natural), ("keys", .array .number)]

def descriptionRule : Rule :=
  .object [("functions", .record .string), ("dimensions", .array dimensionRule), ("pid", .optional .string)]

variable {v : Value}

theorem finds_listing (v : Value) : Finds (listingCheck v) (listingRule v) := by
  apply Finds.bind (.fields v)
  intro fs hFields
  obtain rfl := fields_eq_ok_iff.mp hFields
  exact (Finds.record .string _).within.last

theorem finds_dimension (v : Value) : Finds (dimensionCheck v) (dimensionRule v) := by
  apply Finds.bind (.fields v)
  intro fs hFields
  obtain rfl := fields_eq_ok_iff.mp hFields
  apply Finds.bind (Finds.natural _).within
  intro dimension _
  apply Finds.bind (Finds.natural _).within
  intro size _
  apply Finds.bind (Finds.array .number _).within
  intro keys _
  exact .ok _

theorem finds_description (v : Value) : Finds (descriptionCheck v) (descriptionRule v) := by
  apply Finds.bind (.fields v)
  intro fs hFields
  obtain rfl := fields_eq_ok_iff.mp hFields
  apply Finds.bind (Finds.record .string _).within
  intro functions _
  apply Finds.bind (Finds.array finds_dimension _).within
  intro dimensions _
  apply Finds.bind (Finds.optional .string _).within
  intro pid _
  exact .ok _

theorem lists_iff {entries : List (WideText × WideText)} : record string v = .ok entries ↔ Lists v entries := by
  have hStrings (all : List (WideText × WideText)) (fs : Json.Fields) :
      List.Forall₂ (fun e f => e.1 = f.1 ∧ string f.2 = .ok e.2) all fs ↔
        all.map (fun entry => (entry.1, .string entry.2)) = fs := by
    rw [← List.forall₂_eq_eq_eq, List.forall₂_map_left_iff]
    refine ⟨List.Forall₂.imp fun e f h => ?_, List.Forall₂.imp fun e f h => ?_⟩
    · rw [h.1, ← string_eq_ok_iff.mp h.2]
    · cases h
      exact ⟨rfl, rfl⟩
  rw [record_eq_ok_iff]
  constructor
  · rintro ⟨fs, all, rfl, hAll, hEntries⟩
    exact ⟨all, by rw [(hStrings all fs).mp hAll], hEntries⟩
  · rintro ⟨all, rfl, hEntries⟩
    exact ⟨_, all, rfl, (hStrings all _).mpr rfl, hEntries⟩

theorem optional_string_iff {s? : Option WideText} : optional string v = .ok s? ↔ v = s?.elim .absent .string := by
  rw [optional_eq_ok_iff]
  constructor
  · rintro (⟨rfl, rfl⟩ | ⟨-, s, hString, rfl⟩)
    · rfl
    · exact string_eq_ok_iff.mp hString
  · rintro rfl
    cases s? with
    | none => exact .inl ⟨rfl, rfl⟩
    | some s => exact .inr ⟨Value.noConfusion, s, rfl, rfl⟩

theorem listingCheck_eq_ok_iff {links : List (WideText × WideText)} :
    listingCheck v = .ok links ↔ Lists (v.field "links") links := by
  constructor
  · intro h
    obtain ⟨fs, hFields, hLinks⟩ := bind_eq_ok_iff.mp h
    obtain rfl := fields_eq_ok_iff.mp hFields
    exact lists_iff.mp (within_eq_ok_iff.mp hLinks)
  · intro h
    have hLinks := h
    obtain ⟨all, hObject, -⟩ := hLinks
    obtain ⟨fs, rfl⟩ := Payload.exists_fields hObject Value.noConfusion
    exact bind_eq_ok_iff.mpr ⟨fs, rfl, within_eq_ok_iff.mpr (lists_iff.mpr h)⟩

theorem dimensionCheck_eq_ok_iff {d : Dimension} : dimensionCheck v = .ok d ↔ d.ReadFrom v := by
  constructor
  · intro h
    obtain ⟨fs, hFields, h⟩ := bind_eq_ok_iff.mp h
    obtain ⟨dimension, hDimension, h⟩ := bind_eq_ok_iff.mp h
    obtain ⟨size, hSize, h⟩ := bind_eq_ok_iff.mp h
    obtain ⟨keys, hKeys, h⟩ := bind_eq_ok_iff.mp h
    cases h
    obtain rfl := fields_eq_ok_iff.mp hFields
    exact ⟨natural_eq_ok_iff.mp (within_eq_ok_iff.mp hDimension), natural_eq_ok_iff.mp (within_eq_ok_iff.mp hSize),
      items_number_eq_ok_iff.mp (within_eq_ok_iff.mp hKeys)⟩
  · rintro ⟨hDimension, hSize, hKeys⟩
    obtain ⟨fs, rfl⟩ := Payload.exists_fields hDimension.1 Value.noConfusion
    refine bind_eq_ok_iff.mpr ⟨fs, rfl, bind_eq_ok_iff.mpr ⟨d.dimension, ?_, bind_eq_ok_iff.mpr ⟨d.size, ?_,
      bind_eq_ok_iff.mpr ⟨d.keys, ?_, rfl⟩⟩⟩⟩
    · exact within_eq_ok_iff.mpr (natural_eq_ok_iff.mpr hDimension)
    · exact within_eq_ok_iff.mpr (natural_eq_ok_iff.mpr hSize)
    · exact within_eq_ok_iff.mpr (items_number_eq_ok_iff.mpr hKeys)

theorem descriptionCheck_eq_ok_iff {d : Description} : descriptionCheck v = .ok d ↔ d.ReadFrom v := by
  constructor
  · intro h
    obtain ⟨fs, hFields, h⟩ := bind_eq_ok_iff.mp h
    obtain ⟨functions, hFunctions, h⟩ := bind_eq_ok_iff.mp h
    obtain ⟨dimensions, hDimensions, h⟩ := bind_eq_ok_iff.mp h
    obtain ⟨pid, hPid, h⟩ := bind_eq_ok_iff.mp h
    cases h
    obtain rfl := fields_eq_ok_iff.mp hFields
    obtain ⟨items, hItems, hEach⟩ := items_eq_ok_iff.mp (within_eq_ok_iff.mp hDimensions)
    exact ⟨lists_iff.mp (within_eq_ok_iff.mp hFunctions),
      ⟨items, hItems, hEach.imp fun _ _ => dimensionCheck_eq_ok_iff.mp⟩,
      optional_string_iff.mp (within_eq_ok_iff.mp hPid)⟩
  · rintro ⟨hFunctions, ⟨items, hItems, hEach⟩, hPid⟩
    obtain ⟨fs, rfl⟩ := Payload.exists_fields hItems Value.noConfusion
    refine bind_eq_ok_iff.mpr ⟨fs, rfl, bind_eq_ok_iff.mpr ⟨d.functions, ?_, bind_eq_ok_iff.mpr ⟨d.dimensions, ?_,
      bind_eq_ok_iff.mpr ⟨d.pid, ?_, rfl⟩⟩⟩⟩
    · exact within_eq_ok_iff.mpr (lists_iff.mpr hFunctions)
    · refine within_eq_ok_iff.mpr (items_eq_ok_iff.mpr ⟨items, hItems, ?_⟩)
      exact hEach.imp fun _ _ => dimensionCheck_eq_ok_iff.mpr
    · exact within_eq_ok_iff.mpr (optional_string_iff.mpr hPid)

end Cube

/-- How a violation is reported: by its dotted path, and as the body where the body is no object. -/
structure Failure.Reports (f : Failure) (what : String) (body : Value) (v : Violation) : Prop where
  name_eq : f.name = "MalformedPayloadError"
  path_eq : f.path? = some v.path.text
  whole_iff : v.path.text = "" ↔ Kind.of body ≠ .object
  message_eq : f.message =
    what ++ ": " ++ (if Kind.of body = .object then v.path.text else "body") ++ ": " ++ v.reason.message

/-- A session returns what is read from a body, or fails with the report of what the body violates first. -/
structure Session.Decodes {α : Type} (s : Session α) (w : World) (what : String) (body : Value) (ReadFrom : α → Prop)
    (rule : Rule) : Prop where
  ok_iff : ∀ a, (s.run w).1 = .ok a ↔ ReadFrom a
  error_iff : ∀ i, (s.run w).1 = .error i ↔
    ∃ v, (rule body).First v ∧ i = .failure (.cube what v)
  reports : ∀ v, (rule body).First v → (Failure.cube what v).Reports what body v

theorem Failure.reports_cube {entries : List (String × Rule)} (hNames : ∀ entry ∈ entries, entry.1 ≠ "")
    (what : String) {body : Value} {v : Violation} (h : (Rule.object entries body).First v) :
    (Failure.cube what v).Reports what body v where
  name_eq := rfl
  path_eq := rfl
  whole_iff := Rule.text_eq_empty_iff hNames h
  message_eq := by
    have hWhole := Rule.text_eq_empty_iff hNames h
    by_cases hKind : Kind.of body = .object
    · rw [if_pos hKind, message, if_neg fun hText => hWhole.mp hText hKind]
    · rw [if_neg hKind, message, if_pos (hWhole.mpr hKind)]

namespace Client

variable (c : Client) {w : World} {status : Number} {statusText body : String} {v : Value}

theorem decodes_of_finds {α : Type} {check : Check α} {ReadFrom : α → Prop} {entries : List (String × Rule)}
    (hFinds : Finds (check v) (Rule.object entries v)) (hRead : ∀ a, check v = .ok a ↔ ReadFrom a)
    (hNames : ∀ entry ∈ entries, entry.1 ≠ "") (url what : String)
    (hReply : w.replies.head? = some (.response status statusText body)) (hStatus : isSuccess status = true)
    (hBody : Json.read body = .ok v) :
    (c.get url >>= fun v => Session.ofExcept (.cube what) (check v)).Decodes w what v ReadFrom (.object entries) := by
  have hRun : ((c.get url >>= fun v => Session.ofExcept (.cube what) (check v)).run w).1 =
      (check v).mapError (Interruption.failure ∘ .cube what) := by
    obtain ⟨after, hAnswer, -⟩ := ((c.answers_get url).bind fun v => .ofExcept (.cube what) (check v)) w
    rw [hAnswer]
    dsimp only
    rw [hReply, valueOf_response, valueIn, if_pos hStatus, hBody]
    rfl
  constructor
  · intro a
    rw [hRun, mapError_eq_ok_iff, hRead]
  · intro i
    rw [hRun]
    constructor
    · intro h
      cases hCheck : check v with
      | ok a =>
        rw [hCheck] at h
        cases h
      | error e =>
        rw [hCheck] at h
        cases h
        exact ⟨e, hFinds.first hCheck, rfl⟩
    · rintro ⟨e, hFirst, rfl⟩
      rw [hFinds.error_iff.mpr hFirst]
      rfl
  · exact fun _ => Failure.reports_cube hNames what

/-- From the body of a response of success a client reads exactly the description or the listing that it holds, or
reports what comes first of all that it violates. -/
theorem decodes_cubes (guid : String) (hReply : w.replies.head? = some (.response status statusText body))
    (hStatus : ∃ q : ℚ, status.value? = some q ∧ 200 ≤ q ∧ q ≤ 299) (hBody : Json.read body = .ok v) :
    (c.describeCube guid).Decodes w "cube description" v (fun d => d.ReadFrom v) Cube.descriptionRule ∧
    c.listCubes.Decodes w "cube listing" v (Cube.Lists (v.field "links")) Cube.listingRule ∧
    v.Arranged := by
  refine ⟨?_, ?_, Json.arranged_of_read hBody⟩
  · exact c.decodes_of_finds (Cube.finds_description v) (fun _ => Cube.descriptionCheck_eq_ok_iff) (by decide) _ _
      hReply (isSuccess_iff.mpr hStatus) hBody
  · exact c.decodes_of_finds (Cube.finds_listing v) (fun _ => Cube.listingCheck_eq_ok_iff) (by decide) _ _
      hReply (isSuccess_iff.mpr hStatus) hBody

/-- A listing with two keys that are single halves of pairs, and which differ in these halves only. -/
def halvedListing : Value :=
  .object [("links", .object [(⟨[0xD800]⟩, .string "x"), (⟨[0xD801]⟩, .string ⟨[0x79, 0xDC00]⟩)])]

def writtenFunctions : Json.Fields := [("b", .null), ("10", .string "x"), ("9", .null)]

def arrangedFunctions : Json.Fields := [("9", .null), ("10", .string "x"), ("b", .null)]

def brokenCube (functions : Json.Fields) : Value :=
  .object [("pid", .bool true), ("dimensions", .array [.null]), ("functions", .object functions)]

def respondingWorld (v : Value) : World :=
  ⟨.debug, .zero, [.response (Number.ofNat 200) "OK" v.print], .ready, []⟩

theorem ofEntries_writtenFunctions : Json.Fields.ofEntries writtenFunctions = arrangedFunctions := by
  have hTen : Json.Fields.indexOf ("10", Value.string "x") = 10 := by decide +kernel
  have hNine : Json.Fields.indexOf ("9", Value.null) = 9 := by decide +kernel
  have hFirst : Json.Fields.isIndexed ("b", Value.null) = false := by decide +kernel
  have hOthers : Json.Fields.isIndexed ("10", Value.string "x") = true ∧
      Json.Fields.isIndexed ("9", Value.null) = true := by
    decide +kernel
  have hKeys : (writtenFunctions.map Prod.fst).Nodup := by decide +kernel
  rw [Json.Fields.ofEntries, Json.Fields.settle_of_nodup hKeys]
  simp [Json.Fields.arrange, writtenFunctions, arrangedFunctions, hFirst, hOthers, List.mergeSort, hTen, hNine]

theorem read_brokenCube :
    Json.read (brokenCube writtenFunctions).print = .ok (brokenCube arrangedFunctions) := by
  rw [Json.read_print, ← ofEntries_writtenFunctions]
  rfl

/-- The function `9` is reported, which is written last and comes first; single halves of pairs are read as they are. -/
theorem decodes_cubes_broken :
    Json.read (brokenCube writtenFunctions).print = .ok (brokenCube arrangedFunctions) ∧
    (∃ w, (brokenCube arrangedFunctions).Arranged ∧ (Cube.descriptionRule (brokenCube arrangedFunctions)).First w ∧
      w.path.text = "functions.9" ∧
      (((⟨"http://a", none⟩ : Client).describeCube "g").run (respondingWorld (brokenCube writtenFunctions))).1 =
        .error (.failure (.cube "cube description" w))) ∧
    (((⟨"http://a", none⟩ : Client).listCubes).run (respondingWorld halvedListing)).1 =
      .ok [(⟨[0xD800]⟩, "x"), (⟨[0xD801]⟩, ⟨[0x79, 0xDC00]⟩)] := by
  have hStatus : ∃ q : ℚ, (Number.ofNat 200).value? = some q ∧ 200 ≤ q ∧ q ≤ 299 :=
    isSuccess_iff.mp (by decide +kernel)
  refine ⟨read_brokenCube, ?_, ?_⟩
  · obtain ⟨hDescription, -, hArranged⟩ := decodes_cubes (w := respondingWorld (brokenCube writtenFunctions))
      ⟨"http://a", none⟩ "g" rfl hStatus read_brokenCube
    have hFirst := (Cube.finds_description (brokenCube arrangedFunctions)).first rfl
    exact ⟨_, hArranged, hFirst, by decide +kernel, (hDescription.error_iff _).mpr ⟨_, hFirst, rfl⟩⟩
  · have hRead : Json.read halvedListing.print = .ok halvedListing := by
      rw [Json.read_print]
      rfl
    obtain ⟨-, hListing, -⟩ :=
      decodes_cubes (w := respondingWorld halvedListing) ⟨"http://a", none⟩ "g" rfl hStatus hRead
    exact (hListing.ok_iff _).mpr ⟨[(⟨[0xD800]⟩, "x"), (⟨[0xD801]⟩, ⟨[0x79, 0xDC00]⟩)], rfl, by decide +kernel⟩

end Client

end CubeSlice
