import CubeSlice.Proofs.Number.Text
import CubeSlice.Proofs.Url.Join

/-!
# Dots in paths

Whoever asks for an address first takes the dots out of its path: a component of one dot is dropped, and one of two
dots takes the component before it along. The path of a joined address is that of its base and one component for each
segment, so that its dots are those of the base and the segments that are nothing but dots. Behind a query or a
fragment in the base the segments are no part of the path at all.
-/

namespace CubeSlice.Url

def HasQuery (address : List Char) : Prop := '?' ∈ address ∨ '#' ∈ address

def beforeQuery (cs : List Char) : List Char := cs.takeWhile fun c => c != '?' && c != '#'

def afterScheme (cs : List Char) : List Char :=
  let isScheme (c : Char) : Bool := c != ':' && c != '/'
  if cs.takeWhile isScheme ≠ [] ∧ (cs.dropWhile isScheme).head? = some ':' then (cs.dropWhile isScheme).tail else cs

def afterAuthority : List Char → List Char
  | '/' :: '/' :: rest => rest.dropWhile (· != '/')
  | cs => cs

def pathIn (cs : List Char) : List Char := afterAuthority (afterScheme cs)

def pathOf (address : String) : List Char := pathIn (beforeQuery address.toList)

def components (path : List Char) : List (List Char) := path.splitOn '/'

section Stop

variable {p : Char → Bool} {stop : Char}

theorem takeWhile_append_stop (h : p stop = false) (cs rest : List Char) :
    (cs ++ stop :: rest).takeWhile p = cs.takeWhile p := by
  induction cs with
  | nil => simp [h]
  | cons c cs ih =>
    rw [List.cons_append, List.takeWhile_cons, List.takeWhile_cons, ih]

theorem dropWhile_append_stop (h : p stop = false) (cs rest : List Char) :
    (cs ++ stop :: rest).dropWhile p = cs.dropWhile p ++ stop :: rest := by
  induction cs with
  | nil => simp [h]
  | cons c cs ih =>
    rw [List.cons_append, List.dropWhile_cons, List.dropWhile_cons, ih]
    split <;> rfl

end Stop

theorem afterScheme_append (cs rest : List Char) : afterScheme (cs ++ '/' :: rest) = afterScheme cs ++ '/' :: rest := by
  unfold afterScheme
  dsimp only
  rw [takeWhile_append_stop (by decide), dropWhile_append_stop (by decide)]
  cases cs.dropWhile fun c => c != ':' && c != '/' with
  | nil => simp
  | cons c more =>
    rw [List.cons_append, List.head?_cons, List.head?_cons, List.tail_cons, List.tail_cons]
    split <;> rfl

theorem afterAuthority_append {cs rest : List Char} (hSlash : cs ≠ ['/'])
    (hRest : cs = [] → rest.head? ≠ some '/') :
    afterAuthority (cs ++ '/' :: rest) = afterAuthority cs ++ '/' :: rest := by
  fun_cases afterAuthority cs with
  | case1 more => exact dropWhile_append_stop (by decide) more rest
  | case2 =>
    unfold afterAuthority
    split
    · rename_i more hMore
      rcases cs with _ | ⟨c, _ | ⟨d, cs⟩⟩
      · obtain ⟨-, rfl⟩ := List.cons.inj hMore
        exact absurd rfl (hRest rfl)
      · obtain ⟨rfl, -⟩ := List.cons.inj hMore
        exact absurd rfl hSlash
      · simp only [List.cons_append, List.cons.injEq] at hMore
        obtain ⟨rfl, rfl, -⟩ := hMore
        rename_i hPlain
        exact absurd rfl (hPlain cs)
    · rfl

theorem afterScheme_suffix (cs : List Char) : afterScheme cs <:+ cs := by
  unfold afterScheme
  dsimp only
  split
  · exact (List.tail_suffix _).trans (List.dropWhile_suffix _)
  · exact List.suffix_refl cs

theorem afterAuthority_suffix (cs : List Char) : afterAuthority cs <:+ cs := by
  fun_cases afterAuthority cs with
  | case1 rest => exact (List.dropWhile_suffix _).trans ((List.suffix_cons _ _).trans (List.suffix_cons _ _))
  | case2 => exact List.suffix_refl _

theorem pathIn_suffix (cs : List Char) : pathIn cs <:+ cs := (afterAuthority_suffix _).trans (afterScheme_suffix cs)

theorem getLast?_of_suffix {cs ds : List Char} (h : ds <:+ cs) (hLast : cs.getLast? ≠ some '/') :
    ds.getLast? ≠ some '/' := by
  obtain ⟨front, rfl⟩ := h
  intro hSlash
  rw [List.getLast?_append, hSlash] at hLast
  exact hLast rfl

theorem pathIn_append {cs rest : List Char} (hLast : cs.getLast? ≠ some '/') (hRest : rest.head? ≠ some '/') :
    pathIn (cs ++ '/' :: rest) = pathIn cs ++ '/' :: rest := by
  have hSlash : afterScheme cs ≠ ['/'] := by
    intro hEq
    exact getLast?_of_suffix (afterScheme_suffix cs) hLast (by rw [hEq]; rfl)
  rw [pathIn, afterScheme_append, afterAuthority_append hSlash fun _ => hRest, pathIn]

theorem exists_pathIn_slashes {cs : List Char} (hLast : cs.getLast? ≠ some '/') (k : Nat) :
    ∃ j, pathIn (cs ++ List.replicate k '/') = pathIn cs ++ List.replicate j '/' := by
  cases k with
  | zero => exact ⟨0, by simp⟩
  | succ k =>
    have hSlash : afterScheme cs ≠ ['/'] := by
      intro hEq
      exact getLast?_of_suffix (afterScheme_suffix cs) hLast (by rw [hEq]; rfl)
    rw [List.replicate_succ, pathIn, afterScheme_append, pathIn]
    by_cases hNone : afterScheme cs = []
    · -- slashes alone: two of them would begin an authority
      rw [hNone]
      cases k with
      | zero => exact ⟨1, rfl⟩
      | succ k =>
        refine ⟨k, ?_⟩
        cases k <;> rfl
    · refine ⟨k + 1, ?_⟩
      rw [afterAuthority_append hSlash fun h => absurd h hNone, List.replicate_succ]

theorem beforeQuery_of_not_hasQuery {cs : List Char} (h : ¬ HasQuery cs) : beforeQuery cs = cs := by
  unfold beforeQuery
  rw [List.takeWhile_eq_self_iff]
  intro c hc
  have hQuestion : c ≠ '?' := by
    rintro rfl
    exact h (.inl hc)
  have hHash : c ≠ '#' := by
    rintro rfl
    exact h (.inr hc)
  simp [hQuestion, hHash]

theorem beforeQuery_append {cs : List Char} (h : HasQuery cs) (rest : List Char) :
    beforeQuery (cs ++ rest) = beforeQuery cs := by
  obtain ⟨c, hc, hStop⟩ : ∃ c ∈ cs, (c != '?' && c != '#') = false := by
    rcases h with h | h
    · exact ⟨'?', h, by decide⟩
    · exact ⟨'#', h, by decide⟩
  obtain ⟨front, back, rfl⟩ := List.append_of_mem hc
  unfold beforeQuery
  rw [List.append_assoc, List.cons_append, takeWhile_append_stop hStop, takeWhile_append_stop hStop]

theorem hasQuery_trimSlashes_iff (base : String) : HasQuery (trimSlashes base) ↔ HasQuery base.toList := by
  obtain ⟨k, hBase⟩ := exists_trimSlashes base
  have hSlashes {c : Char} (hc : c ≠ '/') : c ∈ base.toList ↔ c ∈ trimSlashes base := by
    rw [hBase, List.mem_append]
    exact or_iff_left fun h => hc (List.eq_of_mem_replicate h)
  unfold HasQuery
  rw [hSlashes (by decide), hSlashes (by decide)]

theorem trimSlashes_of_getLast? {cs : List Char} (h : cs.getLast? ≠ some '/') :
    trimSlashes (String.ofList cs) = cs := by
  rw [trimSlashes, String.toList_ofList, List.reverse_eq_iff]
  rw [List.getLast?_eq_head?_reverse] at h
  cases hReverse : cs.reverse with
  | nil => rfl
  | cons c rest =>
    rw [hReverse] at h
    exact List.dropWhile_cons_of_neg (by simpa using h)

def basePath (base : String) : List Char := trimSlashes (String.ofList (pathOf base))

theorem basePath_eq {base : String} (h : ¬ HasQuery base.toList) : basePath base = pathIn (trimSlashes base) := by
  obtain ⟨k, hBase⟩ := exists_trimSlashes base
  have hLast := getLast?_trimSlashes base
  obtain ⟨j, hPath⟩ := exists_pathIn_slashes hLast k
  rw [basePath, pathOf, beforeQuery_of_not_hasQuery h, hBase, hPath, trimSlashes_append,
    trimSlashes_of_getLast? (getLast?_of_suffix (pathIn_suffix _) hLast)]

theorem exists_pathOf_eq (base : String) : ∃ k, pathOf base = basePath base ++ List.replicate k '/' := by
  obtain ⟨k, hPath⟩ := exists_trimSlashes (String.ofList (pathOf base))
  exact ⟨k, by rwa [String.toList_ofList] at hPath⟩

theorem encodeSegment_ne_nil {s : String} (h : s ≠ "") : encodeSegment s ≠ [] := by
  intro hNone
  have hDecode := percentDecode?_encodeSegment s
  rw [hNone] at hDecode
  exact h (Option.some.inj hDecode).symm

theorem not_hasQuery_of_isEncoded {cs : List Char} (h : IsEncoded cs) : ¬ HasQuery cs := by
  rintro (hMark | hMark)
  · exact (h.isInert _ hMark).notQuestion rfl
  · exact (h.isInert _ hMark).notHash rfl

theorem hasQuery_append_iff {cs ds : List Char} : HasQuery (cs ++ ds) ↔ HasQuery cs ∨ HasQuery ds := by
  simp only [HasQuery, List.mem_append]
  tauto

theorem not_hasQuery_encoded (texts : List String) :
    ¬ HasQuery ((texts.map encodeSegment).flatMap ('/' :: ·)) := by
  induction texts with
  | nil => simp [HasQuery]
  | cons s texts ih =>
    rw [List.map_cons, List.flatMap_cons, hasQuery_append_iff, not_or]
    refine ⟨?_, ih⟩
    have hEncoded := not_hasQuery_of_isEncoded (isEncoded_encodeSegment s)
    simpa [HasQuery] using hEncoded

variable {base first : String} {rest : List String}

theorem pathOf_join_of_hasQuery (h : HasQuery base.toList) : pathOf (join base (first :: rest)) = pathOf base := by
  obtain ⟨k, hBase⟩ := exists_trimSlashes base
  have hTrimmed := (hasQuery_trimSlashes_iff base).mpr h
  rw [pathOf, pathOf, join_cons, String.toList_ofList, beforeQuery_append hTrimmed, hBase, beforeQuery_append hTrimmed]

theorem pathOf_join (hBase : ¬ HasQuery base.toList) (hFirst : first ≠ "") :
    pathOf (join base (first :: rest)) =
      basePath base ++ ((first :: rest).map encodeSegment).flatMap ('/' :: ·) := by
  have hEncoded : ((first :: rest).map encodeSegment).flatMap ('/' :: ·) =
      '/' :: (encodeSegment first ++ (rest.map encodeSegment).flatMap ('/' :: ·)) := rfl
  have hPlain : ¬ HasQuery (trimSlashes base ++ ((first :: rest).map encodeSegment).flatMap ('/' :: ·)) := by
    rw [hasQuery_append_iff, hasQuery_trimSlashes_iff, not_or]
    exact ⟨hBase, not_hasQuery_encoded _⟩
  have hHead : (encodeSegment first ++ (rest.map encodeSegment).flatMap ('/' :: ·)).head? ≠ some '/' := by
    obtain ⟨c, more, hCons⟩ := List.exists_cons_of_ne_nil (encodeSegment_ne_nil hFirst)
    have hInert := (isEncoded_encodeSegment first).isInert c (by rw [hCons]; exact List.mem_cons_self)
    rw [hCons]
    intro hSlash
    exact hInert.notSlash (Option.some.inj hSlash)
  rw [pathOf, join_cons, String.toList_ofList, beforeQuery_of_not_hasQuery hPlain, hEncoded,
    pathIn_append (getLast?_trimSlashes base) hHead, basePath_eq hBase]

/-- Which components are taken for one dot and which for two: none that does not read as such, and at least the
plain ones. -/
structure Dots where
  one : List (List Char)
  two : List (List Char)
  plain_one : ['.'] ∈ one
  plain_two : ['.', '.'] ∈ two
  reads_one : ∀ c ∈ one, percentDecode? c = some "."
  reads_two : ∀ c ∈ two, percentDecode? c = some ".."

namespace Dots

def plain : Dots := ⟨[['.']], [['.', '.']], by decide, by decide, by decide, by decide⟩

/-- Dots under their percent triples too. -/
def decoded : Dots where
  one := [".", "%2e", "%2E"].map String.toList
  two := ["..", ".%2e", ".%2E", "%2e.", "%2E.", "%2e%2e", "%2e%2E", "%2E%2e", "%2E%2E"].map String.toList
  plain_one := by decide
  plain_two := by decide
  reads_one := by decide +kernel
  reads_two := by decide +kernel

variable (d : Dots)

def Takes (c : List Char) : Prop := c ∈ d.one ∨ c ∈ d.two

instance (c : List Char) : Decidable (d.Takes c) := inferInstanceAs (Decidable (_ ∨ _))

/-- A path without its last component and the slash before that. -/
def above (path : List Char) : List Char := ((path.reverse.dropWhile (· != '/')).drop 1).reverse

/-- Where dots lead from a path. -/
def lead (c path : List Char) : List Char := if c ∈ d.one then path else above path

/-- Appends components to a path, each behind a slash. A path that would end in dots ends in a slash instead. -/
def walk (path : List Char) : List (List Char) → List Char
  | [] => path
  | c :: rest =>
    if d.Takes c then
      if rest.isEmpty then d.lead c path ++ ['/'] else walk (d.lead c path) rest
    else walk (path ++ '/' :: c) rest

/-- Dots at the very front, before any slash, are dropped. -/
def enter : List (List Char) → List Char
  | [] => []
  | c :: rest => if d.Takes c then enter rest else d.walk c rest

def remove (path : List Char) : List Char := d.enter (components path)

variable {d}

theorem ne_nil_of_takes {c : List Char} (h : d.Takes c) : c ≠ [] := by
  rintro rfl
  rcases h with h | h
  · exact absurd (d.reads_one [] h) (by decide)
  · exact absurd (d.reads_two [] h) (by decide)

theorem takes_encodeSegment_iff {s : String} : d.Takes (encodeSegment s) ↔ s = "." ∨ s = ".." := by
  constructor
  · rintro (h | h)
    · have hReads := d.reads_one _ h
      rw [percentDecode?_encodeSegment] at hReads
      exact .inl (Option.some.inj hReads)
    · have hReads := d.reads_two _ h
      rw [percentDecode?_encodeSegment] at hReads
      exact .inr (Option.some.inj hReads)
  · rintro (rfl | rfl)
    · exact .inl d.plain_one
    · exact .inr d.plain_two

theorem length_above_le (path : List Char) : (above path).length ≤ path.length := by
  have hDrop := (List.dropWhile_suffix (· != '/') (l := path.reverse)).length_le
  rw [above, List.length_reverse, List.length_drop]
  rw [List.length_reverse] at hDrop
  omega

theorem length_lead_le (c path : List Char) : (d.lead c path).length ≤ path.length := by
  unfold lead
  split
  · exact Nat.le_refl _
  · exact length_above_le path

theorem length_walk_le (path : List Char) (cs : List (List Char)) :
    (d.walk path cs).length ≤ path.length + (cs.flatMap ('/' :: ·)).length := by
  induction cs generalizing path with
  | nil => exact Nat.le_refl _
  | cons c rest ih =>
    have hLead := d.length_lead_le c path
    have hLed := ih (d.lead c path)
    have hPush := ih (path ++ '/' :: c)
    rw [List.length_append, List.length_cons] at hPush
    rw [List.flatMap_cons, List.length_append, List.length_cons, walk]
    split_ifs
    · rw [List.length_append, List.length_singleton]
      omega
    · omega
    · omega

/-- Dots leave a path shorter than it is written. -/
theorem length_walk_lt {c : List Char} {cs : List (List Char)} (hMem : c ∈ cs) (h : d.Takes c) (path : List Char) :
    (d.walk path cs).length < path.length + (cs.flatMap ('/' :: ·)).length := by
  induction cs generalizing path with
  | nil => cases hMem
  | cons b rest ih =>
    rw [List.flatMap_cons, List.length_append, List.length_cons, walk]
    split_ifs with hDots
    · have hLead := d.length_lead_le b path
      have hPos := List.length_pos_iff.mpr (ne_nil_of_takes hDots)
      rw [List.length_append, List.length_singleton]
      omega
    · have hLead := d.length_lead_le b path
      have hLed := d.length_walk_le (d.lead b path) rest
      omega
    · have hRest : c ∈ rest := (List.mem_cons.mp hMem).resolve_left fun hEq => hDots (hEq ▸ h)
      have hPush := ih hRest (path ++ '/' :: b)
      rw [List.length_append, List.length_cons] at hPush
      omega

theorem walk_append_of_plain {path : List Char} {cs : List (List Char)} (h : ∀ c ∈ cs, ¬ d.Takes c)
    (more : List (List Char)) : d.walk path (cs ++ more) = d.walk (path ++ cs.flatMap ('/' :: ·)) more := by
  induction cs generalizing path with
  | nil => rw [List.nil_append, List.flatMap_nil, List.append_nil]
  | cons c rest ih =>
    obtain ⟨hHead, hRest⟩ := List.forall_mem_cons.mp h
    rw [List.cons_append, walk, if_neg hHead, ih hRest, List.flatMap_cons, List.append_assoc]

theorem walk_of_plain {path : List Char} {cs : List (List Char)} (h : ∀ c ∈ cs, ¬ d.Takes c) :
    d.walk path cs = path ++ cs.flatMap ('/' :: ·) := by
  have hWalk : d.walk path (cs ++ []) = d.walk (path ++ cs.flatMap ('/' :: ·)) [] := walk_append_of_plain h []
  rwa [List.append_nil] at hWalk

theorem walk_eq_iff {path : List Char} {cs : List (List Char)} :
    d.walk path cs = path ++ cs.flatMap ('/' :: ·) ↔ ∀ c ∈ cs, ¬ d.Takes c := by
  refine ⟨fun h c hMem hDots => ?_, walk_of_plain⟩
  have hShorter := length_walk_lt hMem hDots path
  rw [h, List.length_append] at hShorter
  exact Nat.lt_irrefl _ hShorter

theorem length_enter_lt {c : List Char} (h : d.Takes c) (cs : List (List Char)) :
    (d.enter (c :: cs)).length < c.length + (cs.flatMap ('/' :: ·)).length := by
  have hPos := List.length_pos_iff.mpr (ne_nil_of_takes h)
  induction cs generalizing c with
  | nil =>
    rw [enter, if_pos h]
    exact Nat.lt_of_lt_of_le hPos (Nat.le_add_right _ _)
  | cons b rest ih =>
    rw [enter, if_pos h, List.flatMap_cons, List.length_append, List.length_cons]
    by_cases hDots : d.Takes b
    · have hShorter := ih hDots (List.length_pos_iff.mpr (ne_nil_of_takes hDots))
      omega
    · have hShorter := d.length_walk_le b rest
      rw [enter, if_neg hDots]
      omega

theorem enter_eq_iff {c : List Char} {cs : List (List Char)} :
    d.enter (c :: cs) = c ++ cs.flatMap ('/' :: ·) ↔ ∀ b ∈ c :: cs, ¬ d.Takes b := by
  by_cases hDots : d.Takes c
  · refine iff_of_false (fun h => ?_) fun h => h c List.mem_cons_self hDots
    have hShorter := length_enter_lt hDots cs
    rw [h, List.length_append] at hShorter
    exact Nat.lt_irrefl _ hShorter
  · rw [enter, if_neg hDots, walk_eq_iff, List.forall_mem_cons]
    exact (and_iff_right hDots).symm

end Dots

theorem components_eq_cons (path : List Char) :
    ∃ c cs, components path = c :: cs ∧ path = c ++ cs.flatMap ('/' :: ·) := by
  obtain ⟨c, cs, hSplit⟩ := List.exists_cons_of_ne_nil (List.splitOn_ne_nil '/' path)
  refine ⟨c, cs, hSplit, ?_⟩
  have hJoin : ['/'].intercalate (path.splitOn '/') = path := List.intercalate_splitOn '/'
  have hCons := flatMap_cons_eq_intercalate '/' c cs
  rw [← hSplit, hJoin, hSplit, List.flatMap_cons] at hCons
  exact (List.cons.inj hCons).2.symm

theorem components_append (path : List Char) {cs : List (List Char)} (h : ∀ c ∈ cs, '/' ∉ c) :
    components (path ++ cs.flatMap ('/' :: ·)) = components path ++ cs := by
  induction cs generalizing path with
  | nil => rw [List.flatMap_nil, List.append_nil, List.append_nil]
  | cons c rest ih =>
    obtain ⟨hHead, hRest⟩ := List.forall_mem_cons.mp h
    have hComponent : components (path ++ '/' :: c) = components path ++ [c] := by
      have hSplit : components (path ++ '/' :: c) = components path ++ components c :=
        List.splitOnP_append_cons path c (beq_self_eq_true '/')
      rw [hSplit, components, components, List.splitOn_eq_singleton hHead]
    have hText : path ++ (c :: rest).flatMap ('/' :: ·) = (path ++ '/' :: c) ++ rest.flatMap ('/' :: ·) := by
      rw [List.flatMap_cons, List.append_assoc]
    rw [hText, ih _ hRest, hComponent, List.append_assoc, List.singleton_append]

variable {d : Dots} {base first : String} {rest : List String}

theorem Dots.remove_eq_self_iff {path : List Char} : d.remove path = path ↔ ∀ c ∈ components path, ¬ d.Takes c := by
  obtain ⟨c, cs, hComponents, hPath⟩ := components_eq_cons path
  rw [remove, hComponents, ← enter_eq_iff, ← hPath]

theorem Dots.remove_append {path : List Char} (hPath : ∀ c ∈ components path, ¬ d.Takes c) {cs : List (List Char)}
    (h : ∀ c ∈ cs, '/' ∉ c) : d.remove (path ++ cs.flatMap ('/' :: ·)) = d.walk path cs := by
  obtain ⟨b, bs, hComponents, hText⟩ := components_eq_cons path
  rw [hComponents, List.forall_mem_cons] at hPath
  rw [remove, components_append path h, hComponents, List.cons_append, enter, if_neg hPath.1,
    walk_append_of_plain hPath.2, ← hText]

theorem slash_notMem_encodeSegment (s : String) : '/' ∉ encodeSegment s :=
  fun hSlash => ((isEncoded_encodeSegment s).isInert '/' hSlash).notSlash rfl

theorem slash_notMem_encoded (texts : List String) : ∀ c ∈ texts.map encodeSegment, '/' ∉ c :=
  List.forall_mem_map.mpr fun s _ => slash_notMem_encodeSegment s

theorem flatMap_replicate_nil (k : Nat) :
    (List.replicate k ([] : List Char)).flatMap ('/' :: ·) = List.replicate k '/' := by
  induction k with
  | zero => rfl
  | succ k ih =>
    rw [List.replicate_succ, List.replicate_succ, List.flatMap_cons, ih]
    rfl

theorem components_basePath_subset (base : String) : components (basePath base) ⊆ components (pathOf base) := by
  obtain ⟨k, hPath⟩ := exists_pathOf_eq base
  rw [hPath, ← flatMap_replicate_nil, components_append]
  · exact List.subset_append_left _ _
  · intro c hc
    rw [List.eq_of_mem_replicate hc]
    exact List.not_mem_nil

/-- The address asks for what is below the base: its path is that of the base and one component for each text, and
taking out dots does not change it. -/
structure IsBelow (d : Dots) (base : String) (texts : List String) (address : String) : Prop where
  components : ∃ encoded, List.Forall₂ Encodes encoded texts ∧
    pathOf address = basePath base ++ encoded.flatMap ('/' :: ·)
  settled : d.remove (pathOf address) = pathOf address

theorem Encodes.exists_mem {e : List Char} {s : String} (h : Encodes e s) (hs : s ≠ "") : ∃ c ∈ e, c ≠ '/' := by
  cases e with
  | nil => exact absurd (Option.some.inj h.decodes).symm hs
  | cons c e => exact ⟨c, List.mem_cons_self, (h.inert c List.mem_cons_self).notSlash⟩

section Join

variable (hBase : ∀ c ∈ components (pathOf base), ¬ d.Takes c) (hFirst : first ≠ "")
include hBase hFirst

theorem remove_join_eq_self_iff :
    d.remove (pathOf (join base (first :: rest))) = pathOf (join base (first :: rest)) ↔
      HasQuery base.toList ∨ ∀ s ∈ first :: rest, s ≠ "." ∧ s ≠ ".." := by
  by_cases hQuery : HasQuery base.toList
  · rw [pathOf_join_of_hasQuery hQuery]
    exact iff_of_true (Dots.remove_eq_self_iff.mpr hBase) (.inl hQuery)
  · rw [pathOf_join hQuery hFirst, Dots.remove_eq_self_iff, components_append _ (slash_notMem_encoded _),
      List.forall_mem_append, List.forall_mem_map, or_iff_right hQuery]
    simp only [Dots.takes_encodeSegment_iff, not_or]
    exact and_iff_right fun c hc => hBase c (components_basePath_subset base hc)

theorem isBelow_join_iff :
    IsBelow d base (first :: rest) (join base (first :: rest)) ↔
      ¬ HasQuery base.toList ∧ ∀ s ∈ first :: rest, s ≠ "." ∧ s ≠ ".." := by
  constructor
  · rintro ⟨⟨encoded, hEncodes, hPath⟩, hSettled⟩
    have hQuery : ¬ HasQuery base.toList := by
      -- with a query in front of them the texts are not in the path
      intro hQuery
      obtain ⟨k, hSlashes⟩ := exists_pathOf_eq base
      rw [pathOf_join_of_hasQuery hQuery, hSlashes, List.append_cancel_left_eq] at hPath
      cases hEncodes with
      | cons hEncode _ =>
        obtain ⟨c, hc, hNotSlash⟩ := hEncode.exists_mem hFirst
        refine hNotSlash (List.eq_of_mem_replicate (n := k) ?_)
        rw [hPath, List.flatMap_cons]
        exact List.mem_append_left _ (List.mem_cons_of_mem _ hc)
    exact ⟨hQuery, ((remove_join_eq_self_iff hBase hFirst).mp hSettled).resolve_left hQuery⟩
  · rintro ⟨hQuery, hDots⟩
    refine ⟨⟨_, ?_, pathOf_join hQuery hFirst⟩, (remove_join_eq_self_iff hBase hFirst).mpr (.inr hDots)⟩
    rw [List.forall₂_map_left_iff, List.forall₂_same]
    exact fun s _ => encodes_encodeSegment s

end Join

theorem remove_join_two (hBase : ∀ c ∈ components (pathOf base), ¬ d.Takes c) (hQuery : ¬ HasQuery base.toList)
    (hRest : ∀ s ∈ rest, s ≠ "." ∧ s ≠ "..") :
    d.remove (pathOf (join base (".." :: rest))) =
      Dots.above (basePath base) ++ '/' :: ['/'].intercalate (rest.map encodeSegment) := by
  have hPath : ∀ c ∈ components (basePath base), ¬ d.Takes c :=
    fun c hc => hBase c (components_basePath_subset base hc)
  have hTakes : d.Takes (encodeSegment "..") := Dots.takes_encodeSegment_iff.mpr (.inr rfl)
  have hLead : d.lead (encodeSegment "..") (basePath base) = Dots.above (basePath base) := by
    refine if_neg fun hOne => ?_
    have hReads := d.reads_one _ hOne
    rw [percentDecode?_encodeSegment] at hReads
    exact absurd (Option.some.inj hReads) (by decide)
  have hPlain : ∀ c ∈ rest.map encodeSegment, ¬ d.Takes c := by
    simp only [List.forall_mem_map, Dots.takes_encodeSegment_iff, not_or]
    exact hRest
  rw [pathOf_join hQuery (by decide), Dots.remove_append hPath (slash_notMem_encoded _), List.map_cons, Dots.walk,
    if_pos hTakes, hLead]
  cases rest with
  | nil => rfl
  | cons s rest =>
    rw [List.map_cons, if_neg (by simp), ← List.map_cons, Dots.walk_of_plain hPlain, List.map_cons,
      flatMap_cons_eq_intercalate]

end CubeSlice.Url
