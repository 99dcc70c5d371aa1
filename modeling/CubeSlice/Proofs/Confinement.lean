import CubeSlice.Proofs.Calls
import CubeSlice.Proofs.Url.Dots

/-!
# Requests below the base

A client asks for nothing outside the path of its base, whatever cube it is asked about, with two exceptions: dots
are no cube but a way through the path, and behind a query in the base there is no path. Texts of numbers are never
dots.
-/

namespace CubeSlice

theorem Number.text_ne {s : String} (hLiteral : ofLiteral? s.toList = none)
    (hNames : s ∉ ["NaN", "Infinity", "-Infinity"]) (x : Number) : x.text ≠ s := by
  rintro rfl
  cases x with
  | nan => exact hNames (by decide)
  | infinite negative => cases negative <;> exact hNames (by decide)
  | finite negative n held =>
    rw [ofLiteral?_text] at hLiteral
    cases hLiteral

namespace Url

theorem Segment.toText_eq_iff {dots : String} (hLiteral : Number.ofLiteral? dots.toList = none)
    (hNames : dots ∉ ["NaN", "Infinity", "-Infinity"]) {s : Segment} : s.toText = dots ↔ s = .text dots := by
  cases s with
  | text t =>
    rw [Segment.text.injEq]
    rfl
  | number x => exact iff_of_false (Number.text_ne hLiteral hNames x) nofun

theorem forall_toText_ne_dots_iff {segments : List Segment} :
    (∀ s ∈ segments.map Segment.toText, s ≠ "." ∧ s ≠ "..") ↔
      Segment.text "." ∉ segments ∧ Segment.text ".." ∉ segments := by
  have hOne {s : Segment} : s.toText = "." ↔ s = .text "." := Segment.toText_eq_iff (by decide) (by decide)
  have hTwo {s : Segment} : s.toText = ".." ↔ s = .text ".." := Segment.toText_eq_iff (by decide) (by decide)
  simp only [List.forall_mem_map, ne_eq, hOne, hTwo]
  constructor
  · intro h
    exact ⟨fun hMem => (h _ hMem).1 rfl, fun hMem => (h _ hMem).2 rfl⟩
  · rintro ⟨h, h'⟩ s hs
    exact ⟨fun hEq => h (hEq ▸ hs), fun hEq => h' (hEq ▸ hs)⟩

end Url

namespace Client

open Url

def Call.guid? : Call → Option String
  | listCubes => none
  | describeCube guid => some guid
  | fetchSlicePayload guid _ _ => some guid
  | fetchSlice guid _ _ => some guid

variable {call : Call} {guid : String}

theorem Call.segments_eq (h : call.guid? = some guid) :
    ∃ rest, call.segments = guid :: rest ∧ ∀ s ∈ rest, s ≠ "." ∧ s ≠ ".." := by
  have hNumber (x : Number) : x.text ≠ "." ∧ x.text ≠ ".." :=
    ⟨x.text_ne (by decide) (by decide), x.text_ne (by decide) (by decide)⟩
  have hSlice (dim lineno : Number) : ∀ s ∈ ["slice", dim.text, lineno.text], s ≠ "." ∧ s ≠ ".." := by
    simp only [List.forall_mem_cons]
    exact ⟨⟨by decide, by decide⟩, hNumber dim, hNumber lineno, nofun⟩
  cases call with
  | listCubes => cases h
  | describeCube g =>
    cases h
    exact ⟨[], rfl, nofun⟩
  | fetchSlicePayload g dim lineno =>
    cases h
    exact ⟨_, rfl, hSlice dim lineno⟩
  | fetchSlice g dim lineno =>
    cases h
    exact ⟨_, rfl, hSlice dim lineno⟩

/-- Under a base whose path has no dots, taking out dots leaves a joined address as it is just when no segment is dots,
or when a query in the base keeps the segments out of the path: then the address is not below the base either. So it
is with every request about a cube, which carries the token of the client; two dots for the cube ask above the base. -/
theorem requests_below_base (d : Dots) {base : String} (hBase : ∀ c ∈ components (pathOf base), ¬ d.Takes c) :
    (∀ segments : List Segment, segments ≠ [] → (∀ s ∈ segments, s.toText ≠ "") →
      (d.remove (pathOf (join base (segments.map Segment.toText))) = pathOf (join base (segments.map Segment.toText)) ↔
        HasQuery base.toList ∨ Segment.text "." ∉ segments ∧ Segment.text ".." ∉ segments) ∧
      (IsBelow d base (segments.map Segment.toText) (join base (segments.map Segment.toText)) ↔
        ¬ HasQuery base.toList ∧ Segment.text "." ∉ segments ∧ Segment.text ".." ∉ segments)) ∧
    ∀ (token : Option String) (call : Call) (guid : String), call.guid? = some guid → guid ≠ "" → ∀ w, ∃ r : Request,
      (call.visit ⟨base, token⟩ w).shown.filter (fun e => !e.isLog) = [.request r] ∧
      (∀ t, token = some t → t ≠ "" → ("Authorization", "Bearer " ++ t) ∈ r.headers) ∧
      (IsBelow d base call.segments r.url ↔ ¬ HasQuery base.toList ∧ guid ≠ "." ∧ guid ≠ "..") ∧
      (guid = ".." → ¬ HasQuery base.toList → d.remove (pathOf r.url) =
        Dots.above (basePath base) ++ '/' :: ['/'].intercalate (call.segments.tail.map encodeSegment)) := by
  constructor
  · intro segments hSome hNonempty
    obtain ⟨first, rest, rfl⟩ := List.exists_cons_of_ne_nil hSome
    have hFirst := hNonempty first List.mem_cons_self
    rw [← forall_toText_ne_dots_iff]
    exact ⟨remove_join_eq_self_iff hBase hFirst, isBelow_join_iff hBase hFirst⟩
  · intro token call guid hGuid hNonempty w
    obtain ⟨rest, hSegments, hRest⟩ := call.segments_eq hGuid
    have hVisit := Client.isOf_visit ⟨base, token⟩ call w
    refine ⟨_, hVisit.asks, ?_, ?_, ?_⟩
    · intro t hToken ht
      exact (mem_headers_iff _).mpr (.inr ⟨rfl, t, hToken, ht, rfl⟩)
    · rw [hSegments, isBelow_join_iff hBase hNonempty, List.forall_mem_cons, and_iff_left hRest]
    · rintro rfl hQuery
      rw [hSegments]
      exact remove_join_two hBase hQuery hRest

def queryBase : String := "https://example.test/query/"

/-- Slashes and triples inside segments, and two dots for the cube. -/
theorem requests_below_base_queryBase :
    (∀ c ∈ components (pathOf queryBase), ¬ Dots.decoded.Takes c) ∧
    IsBelow .decoded queryBase ["a/../b", "%2E%2e"] (join queryBase ["a/../b", "%2E%2e"]) ∧
    ∀ w, ∃ r : Request, ((Call.describeCube "..").visit ⟨queryBase, some "t"⟩ w).shown.filter (fun e => !e.isLog) =
        [.request r] ∧ ("Authorization", "Bearer " ++ "t") ∈ r.headers ∧
      Dots.decoded.remove (pathOf r.url) = ['/'] := by
  have hBase : ∀ c ∈ components (pathOf queryBase), ¬ Dots.decoded.Takes c := by decide
  have hQuery : ¬ HasQuery queryBase.toList := by simp [HasQuery, queryBase]
  refine ⟨hBase, ?_, fun w => ?_⟩
  · have hBelow := (requests_below_base .decoded hBase).1 [.text "a/../b", .text "%2E%2e"] (by simp)
      (by simp [Segment.toText])
    exact hBelow.2.mpr ⟨hQuery, by simp, by simp⟩
  · obtain ⟨r, hAsks, hToken, -, hAbove⟩ :=
      (requests_below_base .decoded hBase).2 (some "t") (.describeCube "..") ".." rfl (by decide) w
    have hTop : Dots.above (basePath queryBase) = [] := by decide
    refine ⟨r, hAsks, hToken "t" rfl (by decide), ?_⟩
    rw [hAbove rfl hQuery, hTop]
    rfl

end Client

end CubeSlice
