import CubeSlice.Proofs.Command.Outcome
import CubeSlice.Proofs.Command.Words
import CubeSlice.Proofs.Traversal

/-!
# What flags override

When flags give the address and a token, a run does not depend on the address, the token and the secret of
the environment. When they give the address and a secret only, it does not either among environments with
the same token; but a token of the environment goes before the secret of a flag.
-/

namespace CubeSlice

namespace Settings

variable {env other : Environment} {settings : Settings}

theorem lookup_ne_empty {v : Variable} {value : String} (h : lookup env v = some value) : value ≠ "" := by
  unfold lookup at h
  split at h
  · split at h
    · cases h
    · rename_i hSome
      cases h
      exact hSome
  · cases h

/-- Two environments that are accepted and agree on the lifetime of tokens and on the log level. -/
structure Agree (env other : Environment) : Prop where
  accepted : ∃ settings, load env = .ok settings
  accepted' : ∃ settings, load other = .ok settings
  lifetime : lookup env .tokenLifetime = lookup other .tokenLifetime
  level : lookup env .logLevel = lookup other .logLevel

theorem Agree.settings_eq (h : Agree env other) {settings' : Settings} (hLoad : load env = .ok settings)
    (hOther : load other = .ok settings') :
    settings.tokenLifetime = settings'.tokenLifetime ∧ settings.logLevel = settings'.logLevel := by
  obtain ⟨-, -, hLifetime, hLevel⟩ := load_eq_ok hLoad
  obtain ⟨-, -, hLifetime', hLevel'⟩ := load_eq_ok hOther
  rw [h.lifetime, hLifetime'] at hLifetime
  rw [h.level, hLevel'] at hLevel
  exact ⟨(Except.ok.inj hLifetime).symm, (Except.ok.inj hLevel).symm⟩

end Settings

namespace Command

structure Identifies (a : Arguments) : Prop where
  baseUrl : a.baseUrl.isSome = true
  key : a.token.isSome = true ∨ a.secret.isSome = true

section Override

variable {argv : List String} {a : Arguments} {env other : Environment} {settings settings' : Settings}
  {now : Number} {client : Client} {target : Arguments.Target}

theorem tokenFor_of_setting {token : String} (hFlag : a.token = none) (hSetting : settings.token = some token) :
    tokenFor a settings now = .ok (some token) := by
  rw [tokenFor, hFlag, hSetting]
  rfl

theorem tokenFor_eq (hIdentifies : Identifies a) (hLifetime : settings.tokenLifetime = settings'.tokenLifetime)
    (hToken : a.token.isSome = true ∨ settings.token = settings'.token) :
    tokenFor a settings now = tokenFor a settings' now := by
  unfold tokenFor
  cases hFlag : a.token with
  | some token => rfl
  | none =>
    have hSetting : settings.token = settings'.token := by simpa [hFlag] using hToken
    have hSecret : a.secret.isSome = true := by simpa [hFlag] using hIdentifies.key
    obtain ⟨secret, hSecret⟩ := Option.isSome_iff_exists.mp hSecret
    rw [hSetting, hSecret, hLifetime]
    rfl

theorem ready_eq (hIdentifies : Identifies a) (hLifetime : settings.tokenLifetime = settings'.tokenLifetime)
    (hToken : a.token.isSome = true ∨ settings.token = settings'.token) :
    ready a settings now = ready a settings' now := by
  obtain ⟨baseUrl, hBase⟩ := Option.isSome_iff_exists.mp hIdentifies.baseUrl
  unfold ready
  rw [hBase, tokenFor_eq hIdentifies hLifetime hToken]
  rfl

theorem run_execute_eq (hIdentifies : Identifies a) (hAgree : Settings.Agree env other)
    (hToken : a.token.isSome = true ∨ Settings.lookup env .token = Settings.lookup other .token) (w : World) :
    (execute a env).run w = (execute a other).run w := by
  obtain ⟨settings, hLoad⟩ := hAgree.accepted
  obtain ⟨settings', hOther⟩ := hAgree.accepted'
  obtain ⟨hLifetime, hLevel⟩ := hAgree.settings_eq hLoad hOther
  rw [← (Settings.load_eq_ok hLoad).1, ← (Settings.load_eq_ok hOther).1] at hToken
  have hReady : ready a settings w.clock = ready a settings' w.clock := ready_eq hIdentifies hLifetime hToken
  have hWorld : withLevel a settings w = withLevel a settings' w := by
    rw [withLevel, withLevel, levelFor, levelFor, hLevel]
  rw [run_execute, run_execute, prepared_of_load hLoad, prepared_of_load hOther, leveled_of_load hLoad,
    leveled_of_load hOther, hReady, hWorld]

theorem run_eq_of_execute (hFetches : Fetches argv a) {w : World}
    (h : (execute a env).run w = (execute a other).run w) : (run argv env).run w = (run argv other).run w := by
  apply Session.run_tryCatch_congr
  rw [perform_of_fetches hFetches, perform_of_fetches hFetches]
  exact Session.run_bind_congr h

theorem headers_of_mem_questions {r : Request} (h : r ∈ questions client target) : r.headers = client.headers := by
  unfold questions shapeQuestions at h
  rcases List.mem_append.mp h with hShape | hSlice
  · split at hShape
    · cases hShape
    · rw [List.mem_singleton.mp hShape]
      rfl
  · rw [List.mem_singleton.mp hSlice]
    rfl

theorem headers_of_token {baseUrl token : String} (h : token ≠ "") :
    Client.headers ⟨baseUrl, some token⟩ =
      [("Accept", "application/json"), ("Authorization", "Bearer " ++ token)] := by
  unfold Client.headers
  dsimp only
  rw [if_neg h]

theorem headers_of_setting {token : String} {r : Request} (hFlag : a.token = none)
    (hAccepted : ∃ settings, Settings.load env = .ok settings) (hToken : Settings.lookup env .token = some token)
    (h : r ∈ plannedRequests a env now) :
    r.headers = [("Accept", "application/json"), ("Authorization", "Bearer " ++ token)] := by
  obtain ⟨settings, hLoad⟩ := hAccepted
  have hSetting : settings.token = some token := (Settings.load_eq_ok hLoad).1.trans hToken
  unfold plannedRequests at h
  rw [prepared_of_load hLoad] at h
  split at h
  · rename_i client target hReady
    obtain ⟨baseUrl, sent⟩ := client
    obtain ⟨-, -, hSent⟩ := ready_eq_ok_iff.mp hReady
    rw [tokenFor_of_setting hFlag hSetting] at hSent
    cases hSent
    rw [headers_of_mem_questions h]
    exact headers_of_token (Settings.lookup_ne_empty hToken)
  · cases h

end Override

/-- With an address and a token or a secret in flags, runs in two environments are the same whenever there
is a token flag or the environments have the same token. Otherwise a token of the environment is what every
request carries, whatever the secret. -/
theorem run_override {argv : List String} {a : Arguments} (hFetches : Fetches argv a)
    (hIdentifies : Identifies a) {env other : Environment} (hAgree : Settings.Agree env other) (w : World) :
    (a.token.isSome = true ∨ Settings.lookup env .token = Settings.lookup other .token →
      (run argv env).run w = (run argv other).run w) ∧
    (a.token = none → ∀ token, Settings.lookup env .token = some token → ∀ shown,
      w.Shows ((run argv env).run w).2 shown → ∀ r ∈ shown.filterMap Event.request?,
        r.headers = [("Accept", "application/json"), ("Authorization", "Bearer " ++ token)]) := by
  constructor
  · intro hToken
    exact run_eq_of_execute hFetches (run_execute_eq hIdentifies hAgree hToken w)
  · intro hFlag token hToken shown hShows r hr
    obtain ⟨shown', way, hShows', hEnds⟩ := endsSomehow argv env w
    rw [hShows.unique hShows'] at hr
    obtain hNone | ⟨b, hFetches', hAsked⟩ := hEnds.requests
    · rw [hNone] at hr
      cases hr
    · have hSame : b = a := Except.ok.inj (hFetches'.1.symm.trans hFetches.1)
      rw [hSame] at hAsked
      exact headers_of_setting hFlag hAgree.accepted hToken (hAsked.subset hr)

def secretArgv : List String :=
  ["--base-url", "http://a", "--guid", "g", "--dim", "0", "--lineno", "0", "--secret", "s"]

def secretArguments : Arguments :=
  { Arguments.none with
    baseUrl := some "http://a"
    guid := some "g"
    dim := some (Number.ofDigits false ['0'])
    lineno := some (Number.ofDigits false ['0'])
    secret := some "s" }

theorem fetches_secretArgv : Fetches secretArgv secretArguments := by
  have hUrl : Arguments.readValue "--base-url" (some "http://a") = .ok "http://a" := by decide +kernel
  have hGuid : Arguments.readValue "--guid" (some "g") = .ok "g" := by decide +kernel
  have hSecret : Arguments.readValue "--secret" (some "s") = .ok "s" := by decide +kernel
  refine ⟨?_, rfl⟩
  simp [Arguments.parse, secretArgv, Arguments.readGroups, Arguments.Switch.ofArg?, Arguments.Flag.ofArg?,
    Arguments.set, Arguments.readInteger_zero, hUrl, hGuid, hSecret]
  rfl

theorem identifies_secretArguments : Identifies secretArguments := ⟨rfl, .inr rfl⟩

def otherSecret : Environment := [("SLICESTITCH_SECRET", "x")]

def otherToken : Environment := [("SLICESTITCH_TOKEN", "t")]

theorem agree_otherSecret : Settings.Agree otherSecret [] :=
  ⟨⟨⟨none, none, some "x", none, none⟩, rfl⟩, ⟨⟨none, none, none, none, none⟩, rfl⟩, by decide +kernel, by decide +kernel⟩

theorem agree_otherToken : Settings.Agree otherToken [] :=
  ⟨⟨⟨none, some "t", none, none, none⟩, rfl⟩, ⟨⟨none, none, none, none, none⟩, rfl⟩, by decide +kernel, by decide +kernel⟩

def freshWorld : World := ⟨.warn, Number.zero, [], .ready, []⟩

theorem run_override_secret_flag : Fetches secretArgv secretArguments ∧ Identifies secretArguments ∧
    Settings.Agree otherSecret [] ∧
    (run secretArgv otherSecret).run freshWorld = (run secretArgv []).run freshWorld ∧
    Settings.Agree otherToken [] ∧
    ∀ shown, freshWorld.Shows ((run secretArgv otherToken).run freshWorld).2 shown →
      ∀ r ∈ shown.filterMap Event.request?,
        r.headers = [("Accept", "application/json"), ("Authorization", "Bearer " ++ "t")] := by
  have hSame := (run_override fetches_secretArgv identifies_secretArguments agree_otherSecret freshWorld).1
  have hSent := (run_override fetches_secretArgv identifies_secretArguments agree_otherToken freshWorld).2
  refine ⟨fetches_secretArgv, identifies_secretArguments, agree_otherSecret, ?_, agree_otherToken, ?_⟩
  · exact hSame (.inr (by decide +kernel))
  · exact hSent rfl "t" (by decide +kernel)

end Command

end CubeSlice
