import Mathlib.Data.Option.Basic
import CubeSlice.Command.Arguments
import CubeSlice.Proofs.Number.Text
import CubeSlice.Proofs.Traversal

/-!
# Words of the command line

Switches and flags have names, and a flag takes one of three kinds of value. A word that its kind admits is
read as the value that it stands for, any other word is refused for what is wrong with it, and setting a
flag leaves everything else as it is.
-/

namespace CubeSlice.Arguments

def Switch.names : Switch → List String
  | help => ["--help", "-h"]
  | transpose => ["--transpose"]
  | requireCoverage => ["--require-coverage"]
  | single => ["--f32"]
  | verbose => ["--verbose", "-v"]

def Flag.names : Flag → List String
  | baseUrl => ["--base-url"]
  | guid => ["--guid"]
  | dim => ["--dim"]
  | lineno => ["--lineno"]
  | shape0 => ["--shape0"]
  | shape1 => ["--shape1"]
  | token => ["--token"]
  | secret => ["--secret"]
  | output => ["--output", "-o"]
  | format => ["--format"]

inductive Kind where
  | text
  | integer
  | format
  deriving DecidableEq

def Flag.kind : Flag → Kind
  | dim | lineno | shape0 | shape1 => .integer
  | format => .format
  | baseUrl | guid | token | secret | output => .text

/-- The texts that stand for a value. Only texts of free form can look like a flag by mistake. -/
def Kind.Admits : Kind → String → Prop
  | text, word => ¬ "--".toList <+: word.toList
  | integer, word => ∃ m : Numeral word, m.magnitude ≤ maxSafe
  | format, word => ∃ f : OutputFormat, word = f.name

/-- What is wrong with the word behind the name of a flag, if a word is there. -/
inductive Kind.Refuses (name : String) : Kind → Option String → Error → Prop
  | missing {k : Kind} (other : k ≠ integer) : Refuses name k .none (.valueExpected name)
  | missingInteger : Refuses name integer .none (.integerExpected name .none)
  | flagLike {k : Kind} {word : String} (other : k ≠ integer) (dashes : "--".toList <+: word.toList) :
      Refuses name k (some word) (.valueExpected name)
  | notNumeral {word : String} (none : IsEmpty (Numeral word)) :
      Refuses name integer (some word) (.integerExpected name (some word))
  | tooLarge {word : String} (m : Numeral word) (large : maxSafe < m.magnitude) :
      Refuses name integer (some word) (.unsafeInteger name word)
  | notFormat {word : String} (plain : ¬ "--".toList <+: word.toList)
      (none : ∀ f : OutputFormat, word ≠ f.name) : Refuses name format (some word) (.unknownFormat word)

inductive Value where
  | text (s : String)
  | integer (x : Number)
  | format (f : OutputFormat)

def Value.IsOf : Value → String → Prop
  | text s, word => s = word
  | integer x, word => ∃ m : Numeral word, m.Writes x
  | format f, word => f.name = word

def value? (a : Arguments) : Flag → Option Value
  | .baseUrl => a.baseUrl.map .text
  | .guid => a.guid.map .text
  | .dim => a.dim.map .integer
  | .lineno => a.lineno.map .integer
  | .shape0 => a.shape0.map .integer
  | .shape1 => a.shape1.map .integer
  | .token => a.token.map .text
  | .secret => a.secret.map .text
  | .output => a.output.map .text
  | .format => a.format.map .format

def isOn (a : Arguments) : Switch → Bool
  | .help => a.help
  | .transpose => a.transpose
  | .requireCoverage => a.requireCoverage
  | .single => a.single
  | .verbose => a.verbose

theorem Switch.ofArg?_eq_some_iff {arg : String} {s : Switch} : ofArg? arg = some s ↔ arg ∈ s.names := by
  constructor
  · intro h
    unfold ofArg? at h
    split_ifs at h <;> cases h <;> simpa [names]
  · intro h
    cases s <;> simp only [names, List.mem_cons, List.not_mem_nil, or_false] at h
    all_goals rcases h with rfl | rfl <;> simp [ofArg?]

theorem Flag.ofArg?_eq_some_iff {arg : String} {f : Flag} : ofArg? arg = some f ↔ arg ∈ f.names := by
  constructor
  · intro h
    unfold ofArg? at h
    split_ifs at h <;> cases h <;> simpa [names]
  · intro h
    cases f <;> simp only [names, List.mem_cons, List.not_mem_nil, or_false] at h
    all_goals rcases h with rfl | rfl <;> simp [ofArg?]

theorem Flag.ofSwitch?_eq_none {name : String} {f : Flag} (h : name ∈ f.names) :
    Switch.ofArg? name = .none := by
  cases f <;> simp only [names, List.mem_cons, List.not_mem_nil, or_false] at h
  all_goals rcases h with rfl | rfl <;> simp [Switch.ofArg?]

theorem integer?_of_numeral {word : String} (m : Numeral word) :
    integer? word = some (Number.ofDigits m.negative m.digits) := by
  obtain ⟨s, digits, hDigits, hAll, hText⟩ := m
  have hMinus : ¬ '-'.isDigit := by decide
  cases digits with
  | nil => exact absurd rfl hDigits
  | cons c digits =>
    have hFirst : c ≠ '-' := by
      rintro rfl
      exact hMinus (hAll _ List.mem_cons_self)
    have hRest : ∀ d ∈ digits, d.isDigit := fun d hd => hAll d (List.mem_cons_of_mem c hd)
    unfold integer?
    rw [hText]
    cases s <;> simpa [hFirst, hAll] using hRest

theorem not_digits_of_isEmpty {word : String} (h : IsEmpty (Numeral word)) (negative : Bool)
    {digits : List Char} (hText : word.toList = if negative then '-' :: digits else digits) :
    (digits.isEmpty || !digits.all Char.isDigit) = true := by
  by_contra hDigits
  have hGood : digits ≠ [] ∧ ∀ c ∈ digits, c.isDigit := by simpa using hDigits
  exact h.elim ⟨negative, digits, hGood.1, hGood.2, hText⟩

theorem integer?_eq_none {word : String} (h : IsEmpty (Numeral word)) : integer? word = .none := by
  unfold integer?
  split
  · rename_i negative digits hSplit
    split at hSplit
    · rename_i digits' hText
      cases hSplit
      exact if_pos (not_digits_of_isEmpty h true hText)
    · cases hSplit
      exact if_pos (not_digits_of_isEmpty h false rfl)

def Kind.read (name : String) (got : Option String) : Kind → Except Error Value
  | text => (readValue name got).map .text
  | integer => (readInteger name got).map .integer
  | format => (readFormat name got).map .format

theorem readValue_of_plain {name word : String} (h : ¬ "--".toList <+: word.toList) :
    readValue name (some word) = .ok word := by
  simp only [readValue, String.startsWith_string_iff, if_neg h]

theorem readValue_of_dashes {name word : String} (h : "--".toList <+: word.toList) :
    readValue name (some word) = .error (.valueExpected name) := by
  simp only [readValue, String.startsWith_string_iff, if_pos h]

theorem plain_name (f : OutputFormat) : ¬ "--".toList <+: f.name.toList := by
  cases f <;> decide

theorem Kind.exists_read (k : Kind) (name : String) {word : String} (h : k.Admits word) :
    ∃ v, k.read name (some word) = .ok v ∧ v.IsOf word := by
  cases k with
  | text => exact ⟨.text word, by rw [read, readValue_of_plain h]; rfl, rfl⟩
  | integer =>
    obtain ⟨m, hSafe⟩ := h
    refine ⟨.integer (Number.ofDigits m.negative m.digits), ?_, m, m.writes_ofDigits hSafe⟩
    simp only [read, readInteger, integer?_of_numeral m, if_pos (m.isSafeInteger_iff.mpr hSafe)]
    rfl
  | format =>
    obtain ⟨f, rfl⟩ := h
    refine ⟨.format f, ?_, rfl⟩
    rw [read, readFormat, readValue_of_plain (plain_name f), Traversal.ok_bind, OutputFormat.ofName?_name]
    rfl

theorem Kind.read_of_refuses {k : Kind} {name : String} {got : Option String} {e : Error}
    (h : k.Refuses name got e) : k.read name got = .error e := by
  cases h with
  | missing other => cases k <;> first | rfl | exact absurd rfl other
  | missingInteger => rfl
  | flagLike other dashes =>
    cases k with
    | text => rw [read, readValue_of_dashes dashes]; rfl
    | integer => exact absurd rfl other
    | format => rw [read, readFormat, readValue_of_dashes dashes]; rfl
  | notNumeral none =>
    simp only [read, readInteger, integer?_eq_none none]
    rfl
  | tooLarge m large =>
    have hUnsafe : ¬ (Number.ofDigits m.negative m.digits).isSafeInteger = true := by
      rw [m.isSafeInteger_iff]
      exact Nat.not_le.mpr large
    simp only [read, readInteger, integer?_of_numeral m, if_neg hUnsafe]
    rfl
  | notFormat plain none =>
    rw [read, readFormat, readValue_of_plain plain, Traversal.ok_bind]
    split
    · rename_i f hName
      exact absurd (OutputFormat.name_of_ofName? hName) (none f)
    · rfl

theorem Kind.admits_or_refuses (k : Kind) (name : String) (got : Option String) :
    (∃ word, got = some word ∧ k.Admits word) ∨ ∃ e, k.Refuses name got e := by
  cases got with
  | none =>
    right
    by_cases hInteger : k = integer
    · subst hInteger
      exact ⟨_, .missingInteger⟩
    · exact ⟨_, .missing hInteger⟩
  | some word =>
    cases k with
    | text =>
      by_cases hDashes : "--".toList <+: word.toList
      · exact .inr ⟨_, .flagLike (by decide) hDashes⟩
      · exact .inl ⟨word, rfl, hDashes⟩
    | integer =>
      rcases isEmpty_or_nonempty (Numeral word) with hNone | ⟨⟨m⟩⟩
      · exact .inr ⟨_, .notNumeral hNone⟩
      · rcases Nat.lt_or_ge maxSafe m.magnitude with hLarge | hSafe
        · exact .inr ⟨_, .tooLarge m hLarge⟩
        · exact .inl ⟨word, rfl, m, hSafe⟩
    | format =>
      by_cases hDashes : "--".toList <+: word.toList
      · exact .inr ⟨_, .flagLike (by decide) hDashes⟩
      · by_cases hName : ∃ f : OutputFormat, word = f.name
        · exact .inl ⟨word, rfl, hName⟩
        · exact .inr ⟨_, .notFormat hDashes (not_exists.mp hName)⟩

theorem readInteger_zero (arg : String) :
    readInteger arg (some "0") = .ok (Number.ofDigits false ['0']) := by
  have hDigits : integer? "0" = some (Number.ofDigits false ['0']) := rfl
  have hSafe : (Number.ofDigits false ['0']).isSafeInteger = true := by decide +kernel
  simp only [readInteger, hDigits, hSafe, if_true]

theorem readInteger_text {x : Number} (h : x.isSafeInteger = true) (arg : String) :
    readInteger arg (some x.text) = .ok x.asWritten := by
  obtain ⟨m, hSafe, hDigits⟩ := Numeral.exists_of_text h
  have hRead := m.isSafeInteger_iff.mpr hSafe
  rw [hDigits] at hRead
  simp only [readInteger, integer?_of_numeral m, hDigits, hRead, if_true]

variable {a b : Arguments} {f : Flag} {v : Value} {name word : String} {got : Option String} {e : Error}

structure Updates (a b : Arguments) (f : Flag) (v : Value) : Prop where
  here : b.value? f = some v
  elsewhere : ∀ g ≠ f, b.value? g = a.value? g
  switches : ∀ s, b.isOn s = a.isOn s

theorem set_of_read (a : Arguments) (h : f.kind.read name got = .ok v) :
    ∃ b, a.set f name got = .ok b ∧ Updates a b f v := by
  cases f
  all_goals
    simp only [Flag.kind, Kind.read] at h
    obtain ⟨x, hx, rfl⟩ := Traversal.map_eq_ok_iff.mp h
    refine ⟨_, by rw [set, hx]; rfl, rfl, ?_, fun s => by cases s <;> rfl⟩
    intro g hg
    cases g <;> first | rfl | exact absurd rfl hg

theorem set_of_read_error (a : Arguments) (h : f.kind.read name got = .error e) :
    a.set f name got = .error e := by
  cases f
  all_goals
    simp only [Flag.kind, Kind.read] at h
    rw [set, Traversal.map_eq_error_iff.mp h]
    rfl

theorem value?_turnOn (a : Arguments) (s : Switch) (f : Flag) : (a.turnOn s).value? f = a.value? f := by
  cases s <;> cases f <;> rfl

theorem isOn_turnOn (a : Arguments) (s t : Switch) :
    (a.turnOn s).isOn t = true ↔ a.isOn t = true ∨ s = t := by
  cases s <;> cases t <;> simp [turnOn, isOn]

def Value.kind : Value → Kind
  | text _ => .text
  | integer _ => .integer
  | format _ => .format

theorem kind_of_value? (h : a.value? f = some v) : v.kind = f.kind := by
  cases f
  all_goals
    obtain ⟨x, -, rfl⟩ := Option.map_eq_some_iff.mp h
    rfl

theorem Value.IsOf.unique {w : Value} (hKind : v.kind = w.kind) (hv : v.IsOf word) (hw : w.IsOf word) :
    v = w := by
  cases v <;> cases w <;> try cases hKind
  case text.text s t => exact congrArg text (hv.trans hw.symm)
  case integer.integer x y =>
    obtain ⟨m, hx⟩ := hv
    obtain ⟨n, hy⟩ := hw
    obtain rfl := Subsingleton.elim m n
    rw [hx.unique hy]
  case format.format f g =>
    have hName : OutputFormat.ofName? f.name = OutputFormat.ofName? g.name := congrArg _ (hv.trans hw.symm)
    rw [OutputFormat.ofName?_name, OutputFormat.ofName?_name] at hName
    rw [Option.some.inj hName]

theorem eq_of_views (hSwitches : ∀ s, a.isOn s = b.isOn s) (hValues : ∀ f, a.value? f = b.value? f) :
    a = b := by
  have hText {x y : Option String} (h : x.map Value.text = y.map Value.text) : x = y :=
    Option.map_injective (fun _ _ => Value.text.inj) h
  have hInteger {x y : Option Number} (h : x.map Value.integer = y.map Value.integer) : x = y :=
    Option.map_injective (fun _ _ => Value.integer.inj) h
  have hFormat {x y : Option OutputFormat} (h : x.map Value.format = y.map Value.format) : x = y :=
    Option.map_injective (fun _ _ => Value.format.inj) h
  cases a
  cases b
  congr
  · exact hSwitches .help
  · exact hText (hValues .baseUrl)
  · exact hText (hValues .guid)
  · exact hInteger (hValues .dim)
  · exact hInteger (hValues .lineno)
  · exact hInteger (hValues .shape0)
  · exact hInteger (hValues .shape1)
  · exact hText (hValues .token)
  · exact hText (hValues .secret)
  · exact hText (hValues .output)
  · exact hFormat (hValues .format)
  · exact hSwitches .transpose
  · exact hSwitches .requireCoverage
  · exact hSwitches .single
  · exact hSwitches .verbose

end CubeSlice.Arguments
