import CubeSlice.Failure
import CubeSlice.Proofs.Number.Natural
import CubeSlice.Proofs.Text.Wide
import CubeSlice.Proofs.Traversal

/-!
# Settings of a process

Which environments are accepted, what settings they give, and which variable is blamed otherwise. Nothing else about an
environment matters than the values that five variables have; what makes an address valid plays no part.
-/

namespace CubeSlice

theorem Log.Level.name_of_ofName? {s : String} {level : Log.Level} (h : ofName? s = some level) : s = level.name := by
  unfold ofName? at h
  have hName := List.find?_some h
  exact (eq_of_beq hName).symm

/-- The variables of a process in some order, each under a name of its own. One can be there without a value. -/
structure Variables where
  entries : List (String × Option String)
  distinct : (entries.map Prod.fst).Nodup

namespace Variables

def environment (e : Variables) : Environment :=
  e.entries.filterMap fun entry => entry.2.map (entry.1, ·)

/-- The variable is there with a value that is not empty. -/
def Has (e : Variables) (v : Settings.Variable) (value : String) : Prop :=
  (v.name, some value) ∈ e.entries ∧ value ≠ ""

end Variables

namespace Settings

def Variable.Admits : Variable → String → Prop
  | baseUrl, value => Url.isValid value = true
  | token, _ => True
  | secret, _ => True
  | tokenLifetime, value => IsPositiveDecimal value
  | logLevel, value => ∃ level : Log.Level, value = level.name

def Offends (e : Variables) (v : Variable) : Prop := ∃ value, e.Has v value ∧ ¬ v.Admits value

/-- The variable is the first one that offends. -/
inductive Blames (e : Variables) : Variable → Prop
  | baseUrl (hBase : Offends e .baseUrl) : Blames e .baseUrl
  | tokenLifetime (hBase : ¬ Offends e .baseUrl) (hLifetime : Offends e .tokenLifetime) : Blames e .tokenLifetime
  | logLevel (hBase : ¬ Offends e .baseUrl) (hLifetime : ¬ Offends e .tokenLifetime) (hLevel : Offends e .logLevel) :
      Blames e .logLevel

structure Gives (e : Variables) (settings : Settings) : Prop where
  baseUrl : ∀ value, settings.baseUrl = some value ↔ e.Has .baseUrl value
  token : ∀ value, settings.token = some value ↔ e.Has .token value
  secret : ∀ value, settings.secret = some value ↔ e.Has .secret value
  tokenLifetime : ∀ x, settings.tokenLifetime = some x ↔
    ∃ value, e.Has .tokenLifetime value ∧ Number.RoundsTo (decimal value) x
  logLevel : ∀ level, settings.logLevel = some level ↔ e.Has .logLevel level.name

variable {e : Variables} {v : Variable} {β : Type} {read : String → Except Error β}

theorem Blames.offends (h : Blames e v) : Offends e v := by
  cases h with
  | baseUrl hBase => exact hBase
  | tokenLifetime _ hLifetime => exact hLifetime
  | logLevel _ _ hLevel => exact hLevel

theorem Blames.unique {u : Variable} (h : Blames e u) (h' : Blames e v) : u = v := by
  cases h <;> cases h' <;> first | rfl | contradiction

theorem find?_filterMap_eq_some_iff {entries : List (String × Option String)} (h : (entries.map Prod.fst).Nodup)
    {name value : String} :
    ((entries.filterMap fun entry => entry.2.map (entry.1, ·)).find? (·.1 == name)).map Prod.snd = some value ↔
      (name, some value) ∈ entries := by
  induction entries with
  | nil => simp
  | cons entry entries ih =>
    obtain ⟨name', value'⟩ := entry
    obtain ⟨hNew, hRest⟩ := List.nodup_cons.mp h
    have hElsewhere : name' = name → (name, some value) ∉ entries := by
      rintro rfl hMem
      exact hNew (List.mem_map.mpr ⟨_, hMem, rfl⟩)
    cases value' with
    | none => simpa using ih hRest
    | some value' =>
      by_cases hName : name' = name
      · simp [hName, hElsewhere hName, eq_comm]
      · simpa [hName, Ne.symm hName] using ih hRest

theorem lookup_eq_some_iff {env : Environment} {v : Variable} {value : String} :
    lookup env v = some value ↔ (env.find? (·.1 == v.name)).map Prod.snd = some value ∧ value ≠ "" := by
  unfold lookup
  split
  · rename_i found hFound
    rw [hFound]
    split
    · rename_i hEmpty
      simp [hEmpty]
    · rename_i hSome
      simp only [Option.map_some, Option.some.injEq, iff_self_and]
      rintro rfl
      exact hSome
  · rename_i hNone
    simp [hNone]

theorem lookup_environment {e : Variables} {v : Variable} {value : String} :
    lookup e.environment v = some value ↔ e.Has v value := by
  rw [lookup_eq_some_iff, Variables.environment, find?_filterMap_eq_some_iff e.distinct, Variables.Has]

theorem readUrl_eq_ok_iff {text url : String} : readUrl text = .ok url ↔ Url.isValid text = true ∧ text = url := by
  unfold readUrl
  split <;> simp [*]

theorem readLifetime_eq_ok_iff {text : String} {x : Number} :
    readLifetime text = .ok x ↔ IsPositiveDecimal text ∧ Number.RoundsTo (decimal text) x := by
  rw [Number.roundsTo_iff, readLifetime, ofDigits_eq_ofNat_decimal]
  dsimp only
  split
  · rename_i hDigits
    refine iff_of_false nofun ?_
    rintro ⟨⟨hAll, c, hMem, -⟩, -⟩
    simp [List.ne_nil_of_mem hMem, List.all_eq_true.mpr hAll] at hDigits
  · rename_i hDigits
    have hAll : ∀ c ∈ text.toList, c.isDigit = true := by
      simp only [Bool.or_eq_true, Bool.not_eq_true', not_or, Bool.not_eq_false, List.all_eq_true] at hDigits
      exact hDigits.2
    have hPositive : IsPositiveDecimal text ↔ Number.zero.lt (Number.ofNat (decimal text)) = true := by
      rw [Number.zero_lt_ofNat_iff, decimal_pos_iff hAll]
      exact ⟨fun h => h.nonzero, fun h => ⟨hAll, h⟩⟩
    rw [hPositive]
    split <;> simp [*, eq_comm]

theorem readLevel_eq_ok_iff {text : String} {level : Log.Level} : readLevel text = .ok level ↔ text = level.name := by
  constructor
  · intro h
    unfold readLevel at h
    split at h
    · rename_i hName
      cases h
      exact Log.Level.name_of_ofName? hName
    · cases h
  · rintro rfl
    rw [readLevel, Log.Level.ofName?_name]

/-- A reader accepts what the variable admits for what it means, and blames the variable for anything else. -/
structure Reads (v : Variable) (means : String → β → Prop) (read : String → Except Error β) : Prop where
  accepts : ∀ value b, read value = .ok b ↔ v.Admits value ∧ means value b
  total : ∀ value, v.Admits value → ∃ b, means value b
  blamed : ∀ value err, read value = .error err → err.blamed = v

theorem reads_readUrl : Reads .baseUrl Eq readUrl where
  accepts _ _ := readUrl_eq_ok_iff
  total value _ := ⟨value, rfl⟩
  blamed value err h := by
    unfold readUrl at h
    split at h <;> cases h
    rfl

theorem reads_readLifetime : Reads .tokenLifetime (fun value => Number.RoundsTo (decimal value)) readLifetime where
  accepts _ _ := readLifetime_eq_ok_iff
  total value _ := ⟨_, Number.roundsTo_ofNat _⟩
  blamed value err h := by
    unfold readLifetime at h
    dsimp only at h
    split at h
    · cases h
      rfl
    · split at h <;> cases h
      rfl

theorem reads_readLevel : Reads .logLevel (fun value level => value = level.name) readLevel where
  accepts value level := by
    rw [readLevel_eq_ok_iff, iff_and_self]
    exact fun h => ⟨level, h⟩
  total _ h := h
  blamed value err h := by
    unfold readLevel at h
    split at h <;> cases h
    rfl

variable {means : String → β → Prop}

theorem Reads.exists_ok_iff (hReads : Reads v means read) {value : String} :
    (∃ b, read value = .ok b) ↔ v.Admits value := by
  constructor
  · rintro ⟨b, hRead⟩
    exact ((hReads.accepts value b).mp hRead).1
  · intro hAdmits
    obtain ⟨b, hMeans⟩ := hReads.total value hAdmits
    exact ⟨b, (hReads.accepts value b).mpr ⟨hAdmits, hMeans⟩⟩

theorem Reads.of_ok (hReads : Reads v means read) {setting : Option β}
    (h : (lookup e.environment v).mapM read = .ok setting) :
    ¬ Offends e v ∧ ∀ b, setting = some b ↔ ∃ value, e.Has v value ∧ means value b := by
  simp only [Offends, ← lookup_environment]
  cases hLookup : lookup e.environment v with
  | none =>
    rw [hLookup] at h
    cases h
    simp
  | some value =>
    rw [hLookup] at h
    obtain ⟨b, hRead, rfl⟩ := Traversal.map_eq_ok_iff.mp h
    have hAdmits := hReads.exists_ok_iff.mp ⟨b, hRead⟩
    have hMeans (b' : β) : b = b' ↔ means value b' := by
      have hAccepts := hReads.accepts value b'
      rw [hRead, Except.ok.injEq, and_iff_right hAdmits] at hAccepts
      exact hAccepts
    simp [hAdmits, hMeans]

theorem Reads.of_error (hReads : Reads v means read) {err : Error}
    (h : (lookup e.environment v).mapM read = .error err) : Offends e v ∧ err.blamed = v := by
  simp only [Offends, ← lookup_environment, ← hReads.exists_ok_iff]
  cases hLookup : lookup e.environment v with
  | none =>
    rw [hLookup] at h
    cases h
  | some value =>
    rw [hLookup] at h
    have hRead := Traversal.map_eq_error_iff.mp h
    exact ⟨⟨value, rfl, by simp [hRead]⟩, hReads.blamed value err hRead⟩

theorem of_load_eq_ok {settings : Settings} (h : load e.environment = .ok settings) :
    (∀ v, ¬ Offends e v) ∧ Gives e settings := by
  obtain ⟨baseUrl, hBase, hRest⟩ := Traversal.bind_eq_ok_iff.mp h
  obtain ⟨lifetime, hLifetime, hRest⟩ := Traversal.bind_eq_ok_iff.mp hRest
  obtain ⟨level, hLevel, hRest⟩ := Traversal.bind_eq_ok_iff.mp hRest
  cases hRest
  obtain ⟨hBase, hUrls⟩ := reads_readUrl.of_ok hBase
  obtain ⟨hLifetime, hLifetimes⟩ := reads_readLifetime.of_ok hLifetime
  obtain ⟨hLevel, hLevels⟩ := reads_readLevel.of_ok hLevel
  constructor
  · intro v
    cases v with
    | baseUrl => exact hBase
    | tokenLifetime => exact hLifetime
    | logLevel => exact hLevel
    | token => exact fun ⟨_, _, hNot⟩ => hNot trivial
    | secret => exact fun ⟨_, _, hNot⟩ => hNot trivial
  · refine ⟨?_, fun _ => lookup_environment, fun _ => lookup_environment, hLifetimes, ?_⟩
    · intro value
      simp [hUrls]
    · intro level
      simp [hLevels]

theorem blames_of_load {err : Error} (h : load e.environment = .error err) : Blames e err.blamed := by
  obtain hBase | ⟨baseUrl, hBase, hRest⟩ := Traversal.bind_eq_error_iff.mp h
  · obtain ⟨hOffends, hBlamed⟩ := reads_readUrl.of_error hBase
    rw [hBlamed]
    exact .baseUrl hOffends
  have hBase := (reads_readUrl.of_ok hBase).1
  obtain hLifetime | ⟨lifetime, hLifetime, hRest⟩ := Traversal.bind_eq_error_iff.mp hRest
  · obtain ⟨hOffends, hBlamed⟩ := reads_readLifetime.of_error hLifetime
    rw [hBlamed]
    exact .tokenLifetime hBase hOffends
  have hLifetime := (reads_readLifetime.of_ok hLifetime).1
  obtain hLevel | ⟨level, hLevel, hRest⟩ := Traversal.bind_eq_error_iff.mp hRest
  · obtain ⟨hOffends, hBlamed⟩ := reads_readLevel.of_error hLevel
    rw [hBlamed]
    exact .logLevel hBase hLifetime hOffends
  · cases hRest

theorem message_settings (err : Error) : (Failure.settings err).message = err.blamed.name ++ ": " ++ err.reason := by
  rw [← WideText.ofString_append, ← WideText.ofString_append]
  rfl

/-- Settings are loaded just when no variable offends, and are the values that are there. Otherwise the first variable
that offends is blamed. Nothing else about the environment makes a difference. -/
theorem load_outcome (e : Variables) :
    (∀ settings, load e.environment = .ok settings → Gives e settings) ∧
    ((∃ settings, load e.environment = .ok settings) ↔ ∀ v, ¬ Offends e v) ∧
    (∀ v, Blames e v ↔ ∃ (err : Error) (reason : String), load e.environment = .error err ∧ err.blamed = v ∧
      (Failure.settings err).name = "ConfigError" ∧ (Failure.settings err).message = v.name ++ ": " ++ reason) ∧
    ∀ other : Variables, (∀ v value, e.Has v value ↔ other.Has v value) →
      load e.environment = load other.environment := by
  refine ⟨fun settings h => (of_load_eq_ok h).2, ⟨?_, ?_⟩, fun v => ⟨?_, ?_⟩, ?_⟩
  · rintro ⟨settings, h⟩
    exact (of_load_eq_ok h).1
  · intro hNone
    cases hLoad : load e.environment with
    | ok settings => exact ⟨settings, rfl⟩
    | error err => exact absurd (blames_of_load hLoad).offends (hNone _)
  · intro hBlames
    cases hLoad : load e.environment with
    | ok settings => exact absurd hBlames.offends ((of_load_eq_ok hLoad).1 v)
    | error err =>
      obtain rfl := hBlames.unique (blames_of_load hLoad)
      exact ⟨err, _, rfl, rfl, rfl, message_settings err⟩
  · rintro ⟨err, -, hLoad, rfl, -⟩
    exact blames_of_load hLoad
  · intro other hSame
    have hLookup (v : Variable) : lookup e.environment v = lookup other.environment v := by
      ext value
      rw [lookup_environment, lookup_environment, hSame]
    rw [load, load, hLookup, hLookup, hLookup, hLookup, hLookup]

def plain : Variables := ⟨[("SLICESTITCH_TOKEN_TTL", some "0090")], by decide⟩

def crowded : Variables :=
  ⟨[("SLICESTITCH_LOG", some ""), ("PATH", some "/bin"), ("SLICESTITCH_TOKEN", none), ("SLICESTITCH_X", some "y"),
    ("SLICESTITCH_TOKEN_TTL", some "0090")], by decide⟩

def spoiled : Variables := ⟨[("SLICESTITCH_LOG", some "loud"), ("SLICESTITCH_TOKEN_TTL", some "00")], by decide⟩

/-- Variables that make no difference, one that is empty, and two that offend in the other order. -/
theorem load_outcome_crowded :
    (∃ settings, load crowded.environment = .ok settings ∧ Gives crowded settings) ∧
    load crowded.environment = load plain.environment ∧
    ∃ (err : Error) (reason : String), load spoiled.environment = .error err ∧
      (Failure.settings err).name = "ConfigError" ∧
      (Failure.settings err).message = "SLICESTITCH_TOKEN_TTL: " ++ reason := by
  have hSame : ∀ v value, crowded.Has v value ↔ plain.Has v value := by
    intro v value
    cases v <;> simp [Variables.Has, crowded, plain, Variable.name]
  have hNone : ∀ v, ¬ Offends crowded v := by
    rintro v ⟨value, hHas, hNot⟩
    rw [hSame] at hHas
    obtain ⟨hMem, -⟩ := hHas
    cases v <;> simp [plain, Variable.name] at hMem
    subst hMem
    exact hNot ⟨by simp, '9', by simp, by decide⟩
  have hBlames : Blames spoiled .tokenLifetime := by
    constructor
    · rintro ⟨value, ⟨hMem, -⟩, -⟩
      simp [spoiled, Variable.name] at hMem
    · refine ⟨"00", ⟨by decide, by decide⟩, ?_⟩
      rintro ⟨-, c, hMem, hNot⟩
      simp at hMem
      exact hNot hMem
  obtain ⟨settings, hLoad⟩ := (load_outcome crowded).2.1.mpr hNone
  obtain ⟨err, reason, hError, -, hName, hMessage⟩ := ((load_outcome spoiled).2.2.1 .tokenLifetime).mp hBlames
  exact ⟨⟨settings, hLoad, (load_outcome crowded).1 settings hLoad⟩, (load_outcome crowded).2.2.2 plain hSame,
    err, reason, hError, hName, hMessage⟩

end Settings

end CubeSlice
