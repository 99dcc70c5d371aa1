import Mathlib.Data.List.Forall2
import CubeSlice.Slice.OutputFormat

/-!
# Formats that paths ask for

A path asks for a format other than JSON by its ending: a dot and the name of the format, in any letter case. A path
that is nothing but the name asks for the format as well, as there is no dot at which anything could be cut off. All
other paths get JSON.
-/

namespace CubeSlice.OutputFormat

/-- The characters are those of the name, each in either letter case. -/
def Spells (f : OutputFormat) (cs : List Char) : Prop :=
  List.Forall₂ (fun c d => c = d ∨ c = d.toUpper) cs f.name.toList

/-- The path ends in a dot and the name behind it. -/
def Ends (f : OutputFormat) (path : String) : Prop := ∃ front back, path.toList = front ++ '.' :: back ∧ f.Spells back

/-- How a path alone decides about the format. -/
structure Decides (path : String) (format : OutputFormat) : Prop where
  named : ∀ f, f ≠ json → (format = f ↔ f.Ends path ∨ f.Spells path.toList)
  otherwise : format = json ↔ ∀ f, f ≠ json → ¬ f.Ends path ∧ ¬ f.Spells path.toList
  undotted : '.' ∉ path.toList → (format = json ↔ ∀ f, f ≠ json → ¬ f.Spells path.toList)
  directory : ∀ front back, path.toList = front ++ '.' :: back → '.' ∉ back → '/' ∈ back → format = json

variable {f : OutputFormat} {cs front back : List Char} {path : String}

theorem toNat_toUpper {d : Char} (hd : 'a' ≤ d ∧ d ≤ 'z') : d.toUpper.toNat = d.toNat - 32 := by
  have hBounds : 97 ≤ d.val.toNat ∧ d.val.toNat ≤ 122 := hd
  have hStep : (4294967264 : UInt32).toNat = 4294967264 := rfl
  unfold Char.toUpper
  rw [dif_pos (show 'a'.val ≤ d.val ∧ d.val ≤ 'z'.val from hd)]
  show (d.val + 4294967264).toNat = d.val.toNat - 32
  rw [UInt32.toNat_add]
  omega

theorem toNat_toLower (c : Char) :
    c.toLower.toNat = if 65 ≤ c.toNat ∧ c.toNat ≤ 90 then c.toNat + 32 else c.toNat := by
  have hStep : (32 : UInt32).toNat = 32 := rfl
  unfold Char.toLower
  split
  · rename_i hUpper
    have hBounds : 65 ≤ c.val.toNat ∧ c.val.toNat ≤ 90 := hUpper
    rw [if_pos (show 65 ≤ c.toNat ∧ c.toNat ≤ 90 from hUpper)]
    show (c.val + 32).toNat = c.val.toNat + 32
    rw [UInt32.toNat_add]
    omega
  · rename_i hOther
    exact (if_neg (show ¬ (65 ≤ c.toNat ∧ c.toNat ≤ 90) from hOther)).symm

theorem toLower_eq_iff {c d : Char} (hd : 'a' ≤ d ∧ d ≤ 'z') : c.toLower = d ↔ c = d ∨ c = d.toUpper := by
  have hBounds : 97 ≤ d.toNat ∧ d.toNat ≤ 122 := hd
  rw [← Char.toNat_inj, ← Char.toNat_inj, ← Char.toNat_inj, toNat_toUpper hd, toNat_toLower]
  split <;> omega

theorem isLower_of_mem_name {d : Char} (h : d ∈ f.name.toList) : 'a' ≤ d ∧ d ≤ 'z' := by
  have hAll : f.name.toList.all (fun d => 'a' ≤ d ∧ d ≤ 'z') = true := by cases f <;> decide
  exact of_decide_eq_true (List.all_eq_true.mp hAll d h)

theorem map_toLower_eq_iff {name : List Char} (hName : ∀ d ∈ name, 'a' ≤ d ∧ d ≤ 'z') :
    cs.map Char.toLower = name ↔ List.Forall₂ (fun c d => c = d ∨ c = d.toUpper) cs name := by
  induction name generalizing cs with
  | nil => rw [List.map_eq_nil_iff, List.forall₂_nil_right_iff]
  | cons d name ih =>
    rw [List.forall_mem_cons] at hName
    cases cs with
    | nil => simp
    | cons c cs => rw [List.map_cons, List.cons.injEq, List.forall₂_cons, toLower_eq_iff hName.1, ih hName.2]

theorem spells_iff : f.Spells cs ↔ cs.map Char.toLower = f.name.toList :=
  (map_toLower_eq_iff fun _ hd => isLower_of_mem_name hd).symm

theorem Spells.notMem (h : f.Spells cs) {c : Char} (hc : c.toLower < 'a') : c ∉ cs := by
  intro hMem
  have hName := List.mem_map_of_mem (f := Char.toLower) hMem
  rw [spells_iff.mp h] at hName
  exact absurd hc (Char.not_lt.mpr (isLower_of_mem_name hName).1)

theorem Spells.dot_notMem (h : f.Spells cs) : '.' ∉ cs := h.notMem (by decide)

theorem Spells.slash_notMem (h : f.Spells cs) : '/' ∉ cs := h.notMem (by decide)

theorem takeWhile_not_dot (h : '.' ∉ back) (rest : List Char) :
    (back ++ rest).takeWhile (· != '.') = back ++ rest.takeWhile (· != '.') := by
  apply List.takeWhile_append_of_pos
  intro c hc
  exact bne_iff_ne.mpr fun hDot => h (hDot ▸ hc)

theorem extension_of_notMem (h : '.' ∉ path.toList) : extension path = path := by
  have hAll := takeWhile_not_dot (mt List.mem_reverse.mp h) []
  rw [List.takeWhile_nil, List.append_nil] at hAll
  rw [extension, hAll, List.reverse_reverse, String.ofList_toList]

theorem extension_of_dot (hPath : path.toList = front ++ '.' :: back) (h : '.' ∉ back) :
    extension path = String.ofList back := by
  have hDot : ('.' :: front.reverse).takeWhile (· != '.') = [] := List.takeWhile_cons_of_neg (by decide)
  rw [extension, hPath, List.reverse_append, List.reverse_cons, List.append_assoc, List.singleton_append,
    takeWhile_not_dot (mt List.mem_reverse.mp h), hDot, List.append_nil, List.reverse_reverse]

theorem exists_last_dot (h : '.' ∈ path.toList) : ∃ front back, path.toList = front ++ '.' :: back ∧ '.' ∉ back := by
  obtain ⟨back, front, hSplit, hFirst⟩ := List.eq_append_cons_of_mem (List.mem_reverse.mpr h)
  refine ⟨front.reverse, back.reverse, ?_, mt List.mem_reverse.mp hFirst⟩
  rw [← List.reverse_inj, hSplit, List.reverse_append, List.reverse_cons, List.reverse_reverse, List.reverse_reverse,
    List.append_assoc, List.singleton_append]

theorem spells_extension_iff : f.Spells (extension path).toList ↔ f.Ends path ∨ f.Spells path.toList := by
  constructor
  · intro h
    by_cases hDot : '.' ∈ path.toList
    · obtain ⟨front, back, hPath, hBack⟩ := exists_last_dot hDot
      rw [extension_of_dot hPath hBack, String.toList_ofList] at h
      exact .inl ⟨front, back, hPath, h⟩
    · rw [extension_of_notMem hDot] at h
      exact .inr h
  · rintro (⟨front, back, hPath, h⟩ | h)
    · rwa [extension_of_dot hPath h.dot_notMem, String.toList_ofList]
    · rwa [extension_of_notMem h.dot_notMem]

theorem ofName?_eq_some_iff {s : String} : ofName? s = some f ↔ s = f.name :=
  ⟨name_of_ofName?, fun h => h ▸ ofName?_name f⟩

theorem ofName?_extension_iff :
    ofName? ((extension path).map Char.toLower) = some f ↔ f.Ends path ∨ f.Spells path.toList := by
  rw [ofName?_eq_some_iff, ← spells_extension_iff, spells_iff, ← String.toList_inj, String.toList_map]

theorem infer_eq_iff (hf : f ≠ json) : infer (some path) none = f ↔ f.Ends path ∨ f.Spells path.toList := by
  rw [← ofName?_extension_iff]
  show (ofName? ((extension path).map Char.toLower)).getD json = f ↔ _
  cases ofName? ((extension path).map Char.toLower) with
  | none => simp [hf.symm]
  | some g => simp

theorem Ends.dot_mem (h : f.Ends path) : '.' ∈ path.toList := by
  obtain ⟨front, back, hPath, -⟩ := h
  rw [hPath]
  exact List.mem_append_right _ List.mem_cons_self

theorem Ends.slash_notMem (h : f.Ends path) (hPath : path.toList = front ++ '.' :: back) (hBack : '.' ∉ back) :
    '/' ∉ back := by
  have hSpells := spells_extension_iff.mpr (.inl h)
  rw [extension_of_dot hPath hBack, String.toList_ofList] at hSpells
  exact hSpells.slash_notMem

theorem decides_infer (path : String) : Decides path (infer (some path) none) := by
  have hOther : infer (some path) none = json ↔ ∀ f, f ≠ json → infer (some path) none ≠ f :=
    ⟨fun h f hf => h ▸ hf.symm, fun h => by_contra fun hJson => h _ hJson rfl⟩
  have hOtherwise : infer (some path) none = json ↔ ∀ f, f ≠ json → ¬ f.Ends path ∧ ¬ f.Spells path.toList := by
    rw [hOther]
    exact forall_congr' fun f => forall_congr' fun hf => (not_congr (infer_eq_iff hf)).trans not_or
  refine ⟨fun f hf => infer_eq_iff hf, hOtherwise, fun hDot => ?_, fun front back hPath hBack hSlash => ?_⟩
  · rw [hOtherwise]
    refine forall_congr' fun f => forall_congr' fun _ => and_iff_right fun hEnds => hDot hEnds.dot_mem
  · refine hOtherwise.mpr fun f _ => ⟨fun hEnds => hEnds.slash_notMem hPath hBack hSlash, fun hSpells => ?_⟩
    exact hSpells.dot_notMem (hPath ▸ List.mem_append_right _ List.mem_cons_self)

end CubeSlice.OutputFormat
