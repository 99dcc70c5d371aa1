import Mathlib.Data.List.Induction
import CubeSlice.Proofs.Command.Words

/-!
# The grammar of the command line

A command line is a row of groups: the name of a switch, or the name of a flag and an admissible word
behind it. What stands behind a flag is its value and nothing else, so a row of words is split in one way
at most. Reading a command line gives what its groups say, a later group before an earlier one, or reports
the leftmost group that is out of order, or else the first demand that the groups do not meet.
-/

namespace CubeSlice.Arguments

inductive Group where
  | switch (s : Switch) (name : String) (named : name ∈ s.names)
  | flag (f : Flag) (name word : String) (named : name ∈ f.names) (admits : f.kind.Admits word)

def Group.words : Group → List String
  | switch _ name _ => [name]
  | flag _ name word _ _ => [name, word]

def Group.switch? : Group → Option Switch
  | switch s _ _ => some s
  | flag .. => .none

def Group.wordFor? (f : Flag) : Group → Option String
  | switch .. => .none
  | flag g _ word _ _ => if g = f then some word else .none

def given (gs : List Group) (f : Flag) : List String := gs.filterMap (·.wordFor? f)

/-- The arguments say what the groups say: a switch is on as a group names it, and a flag has the value of
the last word that is given to it, or none. -/
structure Describes (gs : List Group) (a : Arguments) : Prop where
  switches : ∀ s, a.isOn s = true ↔ ∃ g ∈ gs, g.switch? = some s
  values : ∀ f, Option.Rel Value.IsOf (a.value? f) (given gs f).getLast?

def AskHelp (gs : List Group) : Prop := ∃ g ∈ gs, g.switch? = some .help

def Missing (gs : List Group) (f : Flag) : Prop := given gs f = []

structure Complete (missing : Flag → Prop) : Prop where
  guid : ¬ missing .guid
  dim : ¬ missing .dim
  lineno : ¬ missing .lineno
  shape : missing .shape0 ↔ missing .shape1

/-- The first demand that is not met where these flags are missing. -/
inductive Lacks (missing : Flag → Prop) : Error → Prop
  | guid (no : missing .guid) : Lacks missing .guidRequired
  | dim (guid : ¬ missing .guid) (no : missing .dim) : Lacks missing .dimRequired
  | lineno (guid : ¬ missing .guid) (dim : ¬ missing .dim) (no : missing .lineno) :
      Lacks missing .linenoRequired
  | shape (guid : ¬ missing .guid) (dim : ¬ missing .dim) (lineno : ¬ missing .lineno)
      (single : ¬ (missing .shape0 ↔ missing .shape1)) : Lacks missing .shapeIncomplete

/-- The words do not start with a group: their first word is no name, or the word behind it no value. -/
inductive Offends : List String → Error → Prop
  | unknown {name : String} {rest : List String} (noSwitch : ∀ s : Switch, name ∉ s.names)
      (noFlag : ∀ f : Flag, name ∉ f.names) : Offends (name :: rest) (.unknown name)
  | refused {f : Flag} {name : String} {rest : List String} {e : Error} (named : name ∈ f.names)
      (refuses : f.kind.Refuses name rest.head? e) : Offends (name :: rest) e

/-- What a command line means. -/
inductive Means (argv : List String) : Except Error Arguments → Prop
  | arguments {gs : List Group} {a : Arguments} (split : argv = gs.flatMap Group.words)
      (enough : AskHelp gs ∨ Complete (Missing gs)) (describes : Describes gs a) : Means argv (.ok a)
  | offence {gs : List Group} {rest : List String} {e : Error} (split : argv = gs.flatMap Group.words ++ rest)
      (offends : Offends rest e) : Means argv (.error e)
  | lack {gs : List Group} {e : Error} (split : argv = gs.flatMap Group.words) (noHelp : ¬ AskHelp gs)
      (lacks : Lacks (Missing gs) e) : Means argv (.error e)

variable {gs : List Group} {a b : Arguments} {s : Switch} {f : Flag} {name word : String} {rest : List String}
  {e : Error}

theorem readGroups_switch (a : Arguments) (named : name ∈ s.names) (rest : List String) :
    readGroups a (name :: rest) = readGroups (a.turnOn s) rest := by
  rw [readGroups, Switch.ofArg?_eq_some_iff.mpr named]

theorem readGroups_flag (a : Arguments) (named : name ∈ f.names) (word : String) (rest : List String) :
    readGroups a (name :: word :: rest) = (a.set f name (some word) >>= (readGroups · rest)) := by
  rw [readGroups, Flag.ofSwitch?_eq_none named, Flag.ofArg?_eq_some_iff.mpr named]

theorem readGroups_last_flag (a : Arguments) (named : name ∈ f.names) :
    readGroups a [name] = a.set f name .none := by
  rw [readGroups, Flag.ofSwitch?_eq_none named, Flag.ofArg?_eq_some_iff.mpr named]

theorem readGroups_unknown (a : Arguments) (noSwitch : ∀ s : Switch, name ∉ s.names)
    (noFlag : ∀ f : Flag, name ∉ f.names) : readGroups a (name :: rest) = .error (.unknown name) := by
  have hSwitch : Switch.ofArg? name = .none :=
    Option.eq_none_iff_forall_ne_some.mpr fun s h => noSwitch s (Switch.ofArg?_eq_some_iff.mp h)
  have hFlag : Flag.ofArg? name = .none :=
    Option.eq_none_iff_forall_ne_some.mpr fun f h => noFlag f (Flag.ofArg?_eq_some_iff.mp h)
  rw [readGroups, hSwitch, hFlag]

theorem readGroups_of_offends (a : Arguments) (h : Offends rest e) : readGroups a rest = .error e := by
  cases h with
  | unknown noSwitch noFlag => exact readGroups_unknown a noSwitch noFlag
  | @refused f name rest e named refuses =>
    have hSet := set_of_read_error a (Kind.read_of_refuses refuses)
    cases rest with
    | nil =>
      rw [readGroups_last_flag a named]
      exact hSet
    | cons word rest =>
      rw [List.head?_cons] at hSet
      rw [readGroups_flag a named, hSet]
      rfl

theorem group_or_offends (name : String) (rest : List String) :
    (∃ (g : Group) (later : List String), name :: rest = g.words ++ later) ∨ ∃ e, Offends (name :: rest) e := by
  by_cases hSwitch : ∃ s : Switch, name ∈ s.names
  · obtain ⟨s, named⟩ := hSwitch
    exact .inl ⟨.switch s name named, rest, rfl⟩
  by_cases hFlag : ∃ f : Flag, name ∈ f.names
  · obtain ⟨f, named⟩ := hFlag
    rcases f.kind.admits_or_refuses name rest.head? with ⟨word, hWord, admits⟩ | ⟨e, refuses⟩
    · obtain ⟨later, rfl⟩ : ∃ later, rest = word :: later := List.head?_eq_some_iff.mp hWord
      exact .inl ⟨.flag f name word named admits, later, rfl⟩
    · exact .inr ⟨e, .refused named refuses⟩
  · exact .inr ⟨_, .unknown (not_exists.mp hSwitch) (not_exists.mp hFlag)⟩

theorem Group.length_words_pos (g : Group) : 0 < g.words.length := by
  cases g <;> simp [words]

theorem exists_split (argv : List String) : ∃ (gs : List Group) (rest : List String),
    argv = gs.flatMap Group.words ++ rest ∧ (rest = [] ∨ ∃ e, Offends rest e) := by
  induction hLength : argv.length using Nat.strong_induction_on generalizing argv with
  | h n ih =>
    cases argv with
    | nil => exact ⟨[], [], rfl, .inl rfl⟩
    | cons name rest =>
      rcases group_or_offends name rest with ⟨g, later, hGroup⟩ | hOffends
      · -- no group is without words
        have hShorter : later.length < n := by
          have hWords := congrArg List.length hGroup
          have hPos := g.length_words_pos
          rw [List.length_append] at hWords
          omega
        obtain ⟨gs, rest, rfl, hRest⟩ := ih _ hShorter later rfl
        exact ⟨g :: gs, rest, by rw [hGroup, List.flatMap_cons, List.append_assoc], hRest⟩
      · exact ⟨[], name :: rest, rfl, .inr hOffends⟩

theorem given_concat (gs : List Group) (g : Group) (f : Flag) :
    given (gs ++ [g]) f = given gs f ++ (g.wordFor? f).toList := by
  rw [given, List.filterMap_append, given]
  cases h : g.wordFor? f <;> simp [h]

theorem describes_none : Describes [] none where
  switches s := by cases s <;> simp [isOn, none]
  values f := by cases f <;> exact .none

theorem Describes.read (h : Describes gs a) (g : Group) :
    ∃ b, Describes (gs ++ [g]) b ∧ ∀ rest, readGroups a (g.words ++ rest) = readGroups b rest := by
  cases g with
  | switch s name named =>
    refine ⟨a.turnOn s, ⟨fun t => ?_, fun f => ?_⟩, readGroups_switch a named⟩
    · simp [isOn_turnOn, h.switches, Group.switch?, or_and_right, exists_or]
    · rw [value?_turnOn, given_concat]
      simpa [Group.wordFor?] using h.values f
  | flag f name word named admits =>
    obtain ⟨v, hRead, hValue⟩ := f.kind.exists_read name admits
    obtain ⟨b, hSet, hUpdates⟩ := set_of_read a hRead
    refine ⟨b, ⟨fun t => ?_, fun g => ?_⟩, fun rest => ?_⟩
    · simp [hUpdates.switches, h.switches, Group.switch?, or_and_right, exists_or]
    · rw [given_concat]
      by_cases hFlag : f = g
      · subst hFlag
        simpa [Group.wordFor?, hUpdates.here] using Option.Rel.some hValue
      · rw [hUpdates.elsewhere g (Ne.symm hFlag)]
        simpa [Group.wordFor?, hFlag] using h.values g
    · show readGroups a (name :: word :: rest) = _
      rw [readGroups_flag a named, hSet]
      rfl

theorem exists_describes (gs : List Group) :
    ∃ a, Describes gs a ∧ ∀ rest, readGroups none (gs.flatMap Group.words ++ rest) = readGroups a rest := by
  -- by the last group: the words of one more group are among what may come behind the others
  induction gs using List.reverseRecOn with
  | nil => exact ⟨none, describes_none, fun _ => rfl⟩
  | append_singleton gs g ih =>
    obtain ⟨a, hDescribes, hRun⟩ := ih
    obtain ⟨b, hNext, hStep⟩ := hDescribes.read g
    refine ⟨b, hNext, fun rest => ?_⟩
    rw [List.flatMap_append, List.append_assoc, hRun, List.flatMap_singleton, hStep]

theorem complete_or_lacks (missing : Flag → Prop) : Complete missing ∨ ∃ e, Lacks missing e := by
  by_cases hGuid : missing .guid
  · exact .inr ⟨_, .guid hGuid⟩
  by_cases hDim : missing .dim
  · exact .inr ⟨_, .dim hGuid hDim⟩
  by_cases hLineno : missing .lineno
  · exact .inr ⟨_, .lineno hGuid hDim hLineno⟩
  by_cases hShape : missing .shape0 ↔ missing .shape1
  · exact .inl ⟨hGuid, hDim, hLineno, hShape⟩
  · exact .inr ⟨_, .shape hGuid hDim hLineno hShape⟩

theorem exists_of_map_ne_none {α β : Type} {x : Option α} {g : α → β} (h : ¬ x.map g = .none) :
    ∃ y, x = some y :=
  Option.ne_none_iff_exists'.mp (mt Option.map_eq_none_iff.mpr h)

theorem exists_target (h : Complete (a.value? · = .none)) : ∃ t, a.target = .ok t := by
  obtain ⟨guid, hGuid⟩ := exists_of_map_ne_none h.guid
  obtain ⟨dim, hDim⟩ := exists_of_map_ne_none h.dim
  obtain ⟨lineno, hLineno⟩ := exists_of_map_ne_none h.lineno
  have hShape := h.shape
  simp only [target, hGuid, hDim, hLineno]
  cases hRows : a.shape0 <;> cases hCols : a.shape1 <;> simp [value?, hRows, hCols] at hShape ⊢

theorem target_of_lacks (h : Lacks (a.value? · = .none) e) : a.target = .error e := by
  cases h with
  | guid no => simp only [target, Option.map_eq_none_iff.mp no]
  | dim guid no =>
    obtain ⟨guid, hGuid⟩ := exists_of_map_ne_none guid
    simp only [target, hGuid, Option.map_eq_none_iff.mp no]
  | lineno guid dim no =>
    obtain ⟨guid, hGuid⟩ := exists_of_map_ne_none guid
    obtain ⟨dim, hDim⟩ := exists_of_map_ne_none dim
    simp only [target, hGuid, hDim, Option.map_eq_none_iff.mp no]
  | shape guid dim lineno single =>
    obtain ⟨guid, hGuid⟩ := exists_of_map_ne_none guid
    obtain ⟨dim, hDim⟩ := exists_of_map_ne_none dim
    obtain ⟨lineno, hLineno⟩ := exists_of_map_ne_none lineno
    simp only [target, hGuid, hDim, hLineno]
    cases hRows : a.shape0 <;> cases hCols : a.shape1 <;> simp [value?, hRows, hCols] at single ⊢

theorem Describes.exists_value (h : Describes gs a) (hWord : (given gs f).getLast? = some word) :
    ∃ v, a.value? f = some v ∧ v.IsOf word := by
  have hValue := h.values f
  rw [hWord] at hValue
  generalize a.value? f = v at hValue
  cases hValue with
  | some hValue => exact ⟨_, rfl, hValue⟩

theorem Describes.value?_eq_none_iff (h : Describes gs a) (f : Flag) :
    a.value? f = .none ↔ Missing gs f := by
  have hValue := h.values f
  rw [Missing, ← List.getLast?_eq_none_iff]
  generalize a.value? f = v at hValue
  cases hWord : (given gs f).getLast? <;> rw [hWord] at hValue <;> cases hValue <;> simp

theorem Describes.missing_eq (h : Describes gs a) : Missing gs = (a.value? · = .none) :=
  funext fun f => propext (h.value?_eq_none_iff f).symm

theorem Describes.unique (ha : Describes gs a) (hb : Describes gs b) : a = b := by
  refine eq_of_views (fun s => ?_) fun f => ?_
  · rw [Bool.eq_iff_iff, ha.switches, hb.switches]
  · have hLeft := ha.values f
    have hRight := hb.values f
    cases hWord : (given gs f).getLast? with
    | none =>
      have hMissing : Missing gs f := List.getLast?_eq_none_iff.mp hWord
      rw [(ha.value?_eq_none_iff f).mpr hMissing, (hb.value?_eq_none_iff f).mpr hMissing]
    | some word =>
      obtain ⟨v, hv, hLeft⟩ := ha.exists_value hWord
      obtain ⟨w, hw, hRight⟩ := hb.exists_value hWord
      have hKind : v.kind = w.kind := (kind_of_value? hv).trans (kind_of_value? hw).symm
      rw [hv, hw, hLeft.unique hKind hRight]

theorem Describes.parse_eq {argv : List String} (h : Describes gs a) (split : argv = gs.flatMap Group.words) :
    parse argv = if a.help then .ok a else a.target.map fun _ => a := by
  obtain ⟨b, hDescribes, hRun⟩ := exists_describes gs
  obtain rfl := hDescribes.unique h
  have hRead : readGroups none argv = .ok b := by
    rw [split, ← List.append_nil (gs.flatMap Group.words), hRun]
    rfl
  rw [parse, hRead, Traversal.ok_bind]
  cases b.target <;> rfl

theorem Describes.help_iff (h : Describes gs a) : a.help = true ↔ AskHelp gs := h.switches .help

theorem parse_of_means {argv : List String} {r : Except Error Arguments} (h : Means argv r) : parse argv = r := by
  cases h with
  | @arguments gs a split enough describes =>
    rw [describes.parse_eq split]
    rcases enough with hHelp | hComplete
    · rw [if_pos (describes.help_iff.mpr hHelp)]
    · obtain ⟨t, hTarget⟩ := exists_target (describes.missing_eq ▸ hComplete)
      rw [hTarget]
      exact ite_self _
  | @offence gs rest e split offends =>
    obtain ⟨b, -, hRun⟩ := exists_describes gs
    rw [parse, split, hRun, readGroups_of_offends b offends]
    rfl
  | @lack gs e split noHelp lacks =>
    obtain ⟨b, describes, -⟩ := exists_describes gs
    rw [describes.parse_eq split, if_neg (mt describes.help_iff.mp noHelp),
      target_of_lacks (describes.missing_eq ▸ lacks)]
    rfl

theorem exists_means (argv : List String) : ∃ r, Means argv r := by
  obtain ⟨gs, rest, hSplit, rfl | ⟨e, hOffends⟩⟩ := exists_split argv
  · rw [List.append_nil] at hSplit
    obtain ⟨a, hDescribes, -⟩ := exists_describes gs
    by_cases hHelp : AskHelp gs
    · exact ⟨_, .arguments hSplit (.inl hHelp) hDescribes⟩
    · rcases complete_or_lacks (Missing gs) with hComplete | ⟨e, hLacks⟩
      · exact ⟨_, .arguments hSplit (.inr hComplete) hDescribes⟩
      · exact ⟨_, .lack hSplit hHelp hLacks⟩
  · exact ⟨_, .offence hSplit hOffends⟩

theorem Group.words_append_inj {g h : Group} {xs ys : List String} (hEq : g.words ++ xs = h.words ++ ys) :
    g = h ∧ xs = ys := by
  -- the first word tells which group it starts: no name is shared
  have hSwitchFlag {s : Switch} {f : Flag} {name : String} (hs : name ∈ s.names) (hf : name ∈ f.names) :
      False := by
    have hNone := Flag.ofSwitch?_eq_none hf
    rw [Switch.ofArg?_eq_some_iff.mpr hs] at hNone
    cases hNone
  cases g with
  | switch s name named =>
    cases h with
    | switch t name' named' =>
      obtain ⟨rfl, rfl⟩ : name = name' ∧ xs = ys := by simpa [words] using hEq
      have hSame := (Switch.ofArg?_eq_some_iff.mpr named).symm.trans (Switch.ofArg?_eq_some_iff.mpr named')
      obtain rfl := Option.some.inj hSame
      exact ⟨rfl, rfl⟩
    | flag f name' word named' admits =>
      obtain ⟨rfl, -⟩ : name = name' ∧ xs = word :: ys := by simpa [words] using hEq
      exact (hSwitchFlag named named').elim
  | flag f name word named admits =>
    cases h with
    | switch s name' named' =>
      obtain ⟨rfl, -⟩ : name = name' ∧ word :: xs = ys := by simpa [words] using hEq
      exact (hSwitchFlag named' named).elim
    | flag f' name' word' named' admits' =>
      obtain ⟨rfl, rfl, rfl⟩ : name = name' ∧ word = word' ∧ xs = ys := by simpa [words] using hEq
      have hSame := (Flag.ofArg?_eq_some_iff.mpr named).symm.trans (Flag.ofArg?_eq_some_iff.mpr named')
      obtain rfl := Option.some.inj hSame
      exact ⟨rfl, rfl⟩

theorem flatMap_words_injective : Function.Injective (List.flatMap Group.words) := by
  intro gs
  induction gs with
  | nil =>
    intro hs hEq
    cases hs with
    | nil => rfl
    | cons h hs =>
      have hLength := congrArg List.length hEq
      have hPos := h.length_words_pos
      rw [List.flatMap_cons, List.length_append, List.flatMap_nil, List.length_nil] at hLength
      omega
  | cons g gs ih =>
    intro hs hEq
    cases hs with
    | nil =>
      have hLength := congrArg List.length hEq
      have hPos := g.length_words_pos
      rw [List.flatMap_cons, List.length_append, List.flatMap_nil, List.length_nil] at hLength
      omega
    | cons h hs =>
      rw [List.flatMap_cons, List.flatMap_cons] at hEq
      obtain ⟨rfl, hRest⟩ := Group.words_append_inj hEq
      rw [ih hRest]

/-- A command line is read as what it means. Words are split into groups in one way at most, so that no
word that is a value is read as a name. -/
theorem parse_eq_iff_means : (∀ argv r, parse argv = r ↔ Means argv r) ∧
    Function.Injective (List.flatMap Group.words) := by
  refine ⟨fun argv r => ⟨?_, parse_of_means⟩, flatMap_words_injective⟩
  rintro rfl
  obtain ⟨r, hMeans⟩ := exists_means argv
  rw [parse_of_means hMeans]
  exact hMeans

end CubeSlice.Arguments
