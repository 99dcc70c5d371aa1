import CubeSlice.Proofs.Command.Grammar
import CubeSlice.Proofs.Command.Outcome

/-!
# More groups at the end

What stands behind a complete command line is read on from what the line says, so a switch or a flag at its end sets
one more field and leaves everything else as it is.
-/

namespace CubeSlice

namespace Arguments

variable {argv : List String} {a : Arguments}

theorem readGroups_append (h : parse argv = .ok a) (rest : List String) :
    readGroups none (argv ++ rest) = readGroups a rest := by
  obtain ⟨r, hMeans⟩ := exists_means argv
  obtain rfl := (parse_of_means hMeans).symm.trans h
  cases hMeans with
  | @arguments gs _ split _ describes =>
    obtain ⟨b, hDescribes, hRun⟩ := exists_describes gs
    obtain rfl := hDescribes.unique describes
    rw [split, hRun]

theorem parse_append (h : parse argv = .ok a) {rest : List String} {b : Arguments}
    (hRest : readGroups a rest = .ok b) {target : Target} (hTarget : b.target = .ok target) :
    parse (argv ++ rest) = .ok b := by
  rw [parse, readGroups_append h, hRest, Traversal.ok_bind, hTarget]
  exact ite_self _

theorem exists_target_of_parse (h : parse argv = .ok a) (hHelp : a.help = false) : ∃ target, a.target = .ok target := by
  obtain ⟨b, hRead, hRest⟩ := Traversal.bind_eq_ok_iff.mp h
  split at hRest
  · rename_i hAsked
    cases hRest
    rw [hHelp] at hAsked
    cases hAsked
  · obtain ⟨target, hTarget, hSame⟩ := Traversal.bind_eq_ok_iff.mp hRest
    cases hSame
    exact ⟨target, hTarget⟩

theorem target_turnOn (a : Arguments) (s : Switch) : (a.turnOn s).target = a.target := by
  cases s <;> rfl

theorem help_turnOn {s : Switch} (hs : s ≠ .help) : (a.turnOn s).help = a.help := by
  cases s <;> first | rfl | exact absurd rfl hs

def shapeWords (rows cols : Number) : List String := ["--shape0", rows.text, "--shape1", cols.text]

def withShape (a : Arguments) (rows cols : Number) : Arguments := { a with shape0 := some rows, shape1 := some cols }

theorem readGroups_shapeWords (a : Arguments) {rows cols : Number} (hRows : rows.isSafeInteger = true)
    (hCols : cols.isSafeInteger = true) :
    readGroups a (shapeWords rows cols) = .ok (a.withShape rows.asWritten cols.asWritten) := by
  have hFirst : "--shape0" ∈ Flag.shape0.names := List.mem_singleton.mpr rfl
  have hSecond : "--shape1" ∈ Flag.shape1.names := List.mem_singleton.mpr rfl
  rw [shapeWords, readGroups_flag a hFirst, Arguments.set, readInteger_text hRows]
  simp only [Traversal.ok_bind, pure, Except.pure]
  rw [readGroups_flag _ hSecond, Arguments.set, readInteger_text hCols]
  rfl

theorem target_withShape {target : Target} (h : a.target = .ok target) (rows cols : Number) :
    (a.withShape rows cols).target = .ok { target with shape := some (rows, cols) } := by
  obtain ⟨help, baseUrl, guid, dim, lineno, shape0, shape1⟩ := a
  unfold Arguments.target at h ⊢
  cases guid with
  | none => cases h
  | some guid =>
    cases dim with
    | none => cases h
    | some dim =>
      cases lineno with
      | none => cases h
      | some lineno => cases shape0 <;> cases shape1 <;> cases h <;> rfl

end Arguments

namespace Command

open Arguments

variable {argv : List String} {a : Arguments}

theorem Fetches.append_switch (h : Fetches argv a) {s : Switch} (hs : s ≠ .help) {name : String}
    (named : name ∈ s.names) : Fetches (argv ++ [name]) (a.turnOn s) := by
  obtain ⟨target, hTarget⟩ := exists_target_of_parse h.1 h.2
  have hRead : readGroups a [name] = .ok (a.turnOn s) := readGroups_switch a named []
  exact ⟨parse_append h.1 hRead ((target_turnOn a s).trans hTarget), (help_turnOn hs).trans h.2⟩

/-- A shape at the end of a command line that fetches is the shape that is asked for, zeros without their sign. -/
theorem Fetches.append_shape (h : Fetches argv a) {rows cols : Number} (hRows : rows.isSafeInteger = true)
    (hCols : cols.isSafeInteger = true) :
    Fetches (argv ++ shapeWords rows cols) (a.withShape rows.asWritten cols.asWritten) := by
  obtain ⟨target, hTarget⟩ := exists_target_of_parse h.1 h.2
  exact ⟨parse_append h.1 (readGroups_shapeWords a hRows hCols) (target_withShape hTarget _ _), h.2⟩

theorem Fetches.append_output (h : Fetches argv a) {path : String}
    (hPath : readValue "--output" (some path) = .ok path) :
    Fetches (argv ++ ["--output", path]) { a with output := some path } := by
  obtain ⟨target, hTarget⟩ := exists_target_of_parse h.1 h.2
  have hName : "--output" ∈ Flag.output.names := List.mem_cons_self
  have hRead : readGroups a ["--output", path] = .ok { a with output := some path } := by
    rw [readGroups_flag a hName, Arguments.set, hPath]
    rfl
  exact ⟨parse_append h.1 hRead hTarget, h.2⟩

def plainArgv : List String := ["--base-url", "http://a", "--guid", "g", "--dim", "0", "--lineno", "0"]

def plainArguments : Arguments :=
  { Arguments.none with
    baseUrl := some "http://a"
    guid := some "g"
    dim := some (Number.ofDigits false ['0'])
    lineno := some (Number.ofDigits false ['0']) }

theorem fetches_plainArgv : Fetches plainArgv plainArguments := by
  have hUrl : readValue "--base-url" (some "http://a") = .ok "http://a" := by decide +kernel
  have hGuid : readValue "--guid" (some "g") = .ok "g" := by decide +kernel
  refine ⟨?_, rfl⟩
  simp [parse, plainArgv, readGroups, Switch.ofArg?, Flag.ofArg?, Arguments.set, readInteger_zero, hUrl, hGuid]
  rfl

def savedArgv : List String := plainArgv ++ ["--output", "a.csv"]

theorem fetches_savedArgv : Fetches savedArgv { plainArguments with output := some "a.csv" } :=
  fetches_plainArgv.append_output (by decide +kernel)

def quietWorld : World := ⟨.warn, Number.zero, [], .ready, []⟩

def two : Number := Number.ofDigits false ['2']

def three : Number := Number.ofDigits false ['3']

def sixText : String :=
  "\x7b\"tiles\":[\x7b\"layout\":\x7b\"initial_skip\":0,\"chunk_size\":6,\"iterations\":1,\"substride\":0," ++
    "\"superstride\":0\x7d,\"v\":[1,2,3,4,5,6]\x7d]\x7d"

def sixWorld : World := { quietWorld with replies := [.response (Number.ofNat 200) "OK" sixText] }

end Command

end CubeSlice
