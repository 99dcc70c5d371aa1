import CubeSlice.Proofs.Command.Appending
import CubeSlice.Proofs.Command.Override
import CubeSlice.Proofs.Settings
import CubeSlice.Proofs.Token.Expiry

/-!
# Lifetimes that are set

Settings accept every positive lifetime, tokens only those below `2 ^ 53`. A run that signs a token stops at a longer
one, after its settings were accepted; no other run does.
-/

namespace CubeSlice

def Failure.isLifetime : Failure → Bool
  | .lifetime _ => true
  | _ => false

namespace Session

variable {α β ε : Type} {s : Session α} {f : α → Session β}

def SparesLifetimes (s : Session α) : Prop :=
  ∀ w e after, s.run w = (.error (.failure e), after) → e.isLifetime = false

namespace SparesLifetimes

theorem bind (hs : s.SparesLifetimes) (hf : ∀ a, (f a).SparesLifetimes) : (s >>= f).SparesLifetimes := by
  intro w e after h
  rcases hRun : s.run w with ⟨i | a, mid⟩
  · rw [run_bind_of_error hRun] at h
    cases h
    exact hs w e after hRun
  · rw [run_bind_of_ok hRun] at h
    exact hf a mid e after h

theorem pure (a : α) : (pure a : Session α).SparesLifetimes := by
  intro w e after h
  cases h

theorem fail {e : Failure} (h : e.isLifetime = false) : (fail e : Session α).SparesLifetimes := by
  intro w e' after hRun
  cases hRun
  exact h

theorem ofExcept {wrap : ε → Failure} (h : ∀ e, (wrap e).isLifetime = false) (r : Except ε α) :
    (ofExcept wrap r).SparesLifetimes := by
  cases r with
  | error e => exact fail (h e)
  | ok a => exact pure a

theorem log (method : Log.Method) (scope text : String) : (log method scope text).SparesLifetimes := by
  intro w e after h
  rw [run_log] at h
  cases h

theorem stdout (text : String) : (stdout text).SparesLifetimes := by
  intro w e after h
  cases h

theorem send (r : Request) : (send r).SparesLifetimes := by
  intro w e after h
  rw [run_send] at h
  split at h <;> cases h <;> rfl

theorem writeSlice (path : String) (slice : Slice) (format : OutputFormat) :
    (writeSlice path slice format).SparesLifetimes := by
  intro w e after h
  rw [run_writeSlice] at h
  split at h
  · rename_i hFailure
    cases h
    obtain ⟨name, message, rfl⟩ := Command.exists_foreign_of_disk hFailure
    rfl
  · cases h

end SparesLifetimes

end Session

namespace Client

open Session

variable (c : Client)

theorem sparesLifetimes_get (url : String) : (c.get url).SparesLifetimes := by
  refine .bind (.log _ _ _) fun _ => .bind (.send _) ?_
  intro (status, statusText, body)
  dsimp only
  split
  · exact .ofExcept (fun _ => rfl) _
  · exact .bind (.log _ _ _) fun _ => .fail rfl

theorem sparesLifetimes_describeCube (guid : String) : (c.describeCube guid).SparesLifetimes :=
  .bind (c.sparesLifetimes_get _) fun _ => .ofExcept (fun _ => rfl) _

theorem sparesLifetimes_fetchSlice (guid : String) (dim lineno : Number) :
    (c.fetchSlice guid dim lineno).SparesLifetimes := by
  refine .bind (c.sparesLifetimes_get _) fun v => .bind (.ofExcept (fun _ => rfl) _) fun tiles => ?_
  exact .bind (.log _ _ _) fun _ => .pure tiles

end Client

theorem Settings.lifetime_of_load {env : Environment} {settings : Settings} (h : load env = .ok settings) :
    match lookup env .tokenLifetime with
    | none => settings.tokenLifetime = none
    | some text => IsPositiveDecimal text ∧ settings.tokenLifetime = some (Number.ofNat (decimal text)) := by
  obtain ⟨-, -, hLifetime, -⟩ := load_eq_ok h
  split
  · rename_i hNone
    rw [hNone] at hLifetime
    exact (Except.ok.inj hLifetime).symm
  · rename_i text hText
    rw [hText] at hLifetime
    obtain ⟨x, hRead, hSetting⟩ := Traversal.map_eq_ok_iff.mp hLifetime
    obtain ⟨hPositive, hRounds⟩ := readLifetime_eq_ok_iff.mp hRead
    rw [← Number.roundsTo_iff.mp hRounds, hSetting]
    exact ⟨hPositive, rfl⟩

/-- The lifetime that is set is too long for tokens; it is read as this number. -/
def Settings.Overlong (env : Environment) (x : Number) : Prop :=
  ∃ text, lookup env .tokenLifetime = some text ∧ 2 ^ 53 ≤ decimal text ∧ Number.RoundsTo (decimal text) x

theorem Settings.overlong_iff {env : Environment} {text : String} (h : lookup env .tokenLifetime = some text)
    {x : Number} : Overlong env x ↔ 2 ^ 53 ≤ decimal text ∧ Number.RoundsTo (decimal text) x := by
  simp [Overlong, h]

theorem Token.service_ofNat {n : Nat} (hn : 0 < n) (secret : String) (now : Number) :
    service secret (.number (Number.ofNat n)) now =
      if 2 ^ 53 ≤ n then .error (.notPositiveInteger (.number (Number.ofNat n)))
      else .ok (sign (.object [("exp", .number (expiry (Number.ofNat n) now))]) secret) := by
  have hLifetime : (∃ seconds, IsLifetime (Number.ofNat n) seconds) ↔ ¬ 2 ^ 53 ≤ n := by
    have hMost : maxSafe + 1 = 2 ^ 53 := by decide
    rw [exists_isLifetime_iff, Number.isSafeInteger_ofNat_iff, Number.zero_lt_ofNat_iff, ← hMost]
    omega
  split
  · rename_i hLong
    exact service_of_not_isLifetime (fun h => hLifetime.mp h hLong) secret now
  · rename_i hShort
    obtain ⟨seconds, h⟩ := hLifetime.mpr hShort
    exact service_of_isLifetime h secret now

namespace Command

open Session

theorem sparesLifetimes_fetch (a : Arguments) (client : Client) (target : Arguments.Target) :
    (fetch a client target).SparesLifetimes := by
  refine .bind ?_ fun shape => .bind (client.sparesLifetimes_fetchSlice _ _ _) fun tiles => .bind ?_ fun slice =>
    .bind ?_ fun _ => .stdout _
  · unfold shapeFor
    split
    · exact .pure _
    · refine .bind (client.sparesLifetimes_describeCube _) fun description => ?_
      refine .bind (.ofExcept (fun _ => rfl) _) fun shape => ?_
      exact .bind (.log _ _ _) fun _ => .pure _
  · refine .bind (.ofExcept (fun _ => rfl) _) fun r => ?_
    exact .bind (.log _ _ _) fun _ => .pure _
  · unfold writeOutput
    split
    · exact .pure _
    · exact .bind (.writeSlice _ _ _) fun _ => .log _ _ _

def asked (settings : Settings) : Json.Value :=
  match settings.tokenLifetime with
  | some x => .number x
  | none => .absent

/-- A run that signs a token with the secret, since none was given. -/
structure Signs (a : Arguments) (settings : Settings) (secret : String) : Prop where
  baseUrl : ∃ url, (a.baseUrl <|> settings.baseUrl) = some url
  token : (a.token <|> settings.token) = none
  secret : (a.secret <|> settings.secret) = some secret

variable {argv : List String} {a : Arguments} {env : Environment} {settings : Settings} {now : Number}
  {e : Token.LifetimeError}

theorem tokenFor_eq_error_iff : tokenFor a settings now = .error e ↔ ∃ secret,
    (a.token <|> settings.token) = none ∧ (a.secret <|> settings.secret) = some secret ∧
      Token.service secret (asked settings) now = .error e := by
  unfold tokenFor
  cases a.token <|> settings.token with
  | some token => simp
  | none =>
    cases a.secret <|> settings.secret with
    | none => simp
    | some secret =>
      simp only [true_and, Option.some.injEq, exists_eq_left']
      exact Traversal.map_eq_error_iff

theorem prepared_eq_lifetime_iff (hLoad : Settings.load env = .ok settings) (hFetches : Fetches argv a) :
    prepared a env now = .error (.lifetime e) ↔ ∃ secret, Signs a settings secret ∧
      Token.service secret (asked settings) now = .error e := by
  obtain ⟨target, hTarget⟩ := Arguments.exists_target_of_parse hFetches.1 hFetches.2
  rw [prepared_of_load hLoad, ready, hTarget]
  cases hUrl : a.baseUrl <|> settings.baseUrl with
  | none =>
    refine iff_of_false nofun ?_
    rintro ⟨secret, hSigns, -⟩
    obtain ⟨url, hSome⟩ := hSigns.baseUrl
    rw [hUrl] at hSome
    cases hSome
  | some url =>
    have hSigns (secret : String) : Signs a settings secret ↔
        (a.token <|> settings.token) = none ∧ (a.secret <|> settings.secret) = some secret :=
      ⟨fun h => ⟨h.token, h.secret⟩, fun h => ⟨⟨url, hUrl⟩, h.1, h.2⟩⟩
    simp only [hSigns, and_assoc, ← tokenFor_eq_error_iff]
    cases tokenFor a settings now <;> simp [Except.mapError]

theorem exists_fetches_of_lifetime {w after : World}
    (h : (perform argv env).run w = (.error (.failure (.lifetime e)), after)) : ∃ a, Fetches argv a := by
  cases hParse : Arguments.parse argv with
  | error misuse =>
    rw [perform, hParse] at h
    cases h
  | ok a =>
    cases hHelp : a.help with
    | false => exact ⟨a, hParse, hHelp⟩
    | true =>
      simp only [perform, hParse, Session.ofExcept, pure_bind, hHelp] at h
      cases h

theorem perform_eq_lifetime_iff {w : World} :
    (∃ after, (perform argv env).run w = (.error (.failure (.lifetime e)), after)) ↔
      ∃ a, Fetches argv a ∧ prepared a env w.clock = .error (.lifetime e) := by
  constructor
  · rintro ⟨after, hPerform⟩
    obtain ⟨a, hFetches⟩ := exists_fetches_of_lifetime hPerform
    refine ⟨a, hFetches, ?_⟩
    cases hPrepared : prepared a env w.clock with
    | error f =>
      rw [run_perform_of_unprepared hFetches hPrepared] at hPerform
      cases hPerform
      rfl
    | ok ready =>
      -- what comes behind the token never fails for a lifetime
      have hSpares : (fetch a ready.1 ready.2 >>= fun _ => pure 0).SparesLifetimes :=
        .bind (sparesLifetimes_fetch a ready.1 ready.2) fun _ => .pure 0
      rw [run_perform_of_prepared hFetches hPrepared] at hPerform
      cases hSpares _ _ _ hPerform
  · rintro ⟨a, hFetches, hPrepared⟩
    exact ⟨_, run_perform_of_unprepared hFetches hPrepared⟩

/-- Under settings that were accepted, a lifetime that is too long is all that can go wrong. -/
theorem service_asked_eq_error_iff (hLoad : Settings.load env = .ok settings) (secret : String) :
    Token.service secret (asked settings) now = .error e ↔
      ∃ x, Settings.Overlong env x ∧ e = .notPositiveInteger (.number x) := by
  have hSetting := Settings.lifetime_of_load hLoad
  split at hSetting
  · rename_i hNone
    have hService : Token.service secret (asked settings) now =
        .ok (Token.sign (.object [("exp", .number (Token.expiry Token.defaultLifetime now))]) secret) := by
      rw [asked, hSetting]
      rfl
    rw [hService]
    refine iff_of_false nofun ?_
    rintro ⟨x, ⟨text, hText, -⟩, -⟩
    rw [hNone] at hText
    cases hText
  · rename_i text hText
    obtain ⟨hPositive, hSetting⟩ := hSetting
    have hPos : 0 < decimal text := (decimal_pos_iff hPositive.isDigit).mpr hPositive.nonzero
    have hAsked : asked settings = .number (Number.ofNat (decimal text)) := by rw [asked, hSetting]
    simp only [hAsked, Token.service_ofNat hPos, Settings.overlong_iff hText, Number.roundsTo_iff]
    split
    · rename_i hLong
      simp only [hLong, true_and, exists_eq_left, Except.error.injEq]
      exact eq_comm
    · rename_i hShort
      simp only [hShort, false_and, exists_false, reduceCtorEq]

theorem exists_service_asked_iff (hLoad : Settings.load env = .ok settings) (secret : String) (now : Number) :
    (∃ token, Token.service secret (asked settings) now = .ok token) ↔ ¬ ∃ x, Settings.Overlong env x := by
  cases hService : Token.service secret (asked settings) now with
  | ok token =>
    refine iff_of_true ⟨token, rfl⟩ ?_
    rintro ⟨x, hOverlong⟩
    rw [(service_asked_eq_error_iff hLoad secret).mpr ⟨x, hOverlong, rfl⟩] at hService
    cases hService
  | error e =>
    obtain ⟨x, hOverlong, -⟩ := (service_asked_eq_error_iff hLoad secret).mp hService
    exact iff_of_false nofun fun h => h ⟨x, hOverlong⟩

/-- A run that signs a token for a lifetime that is too long. -/
structure Overstays (argv : List String) (env : Environment) (settings : Settings) (x : Number) : Prop where
  exists_signs : ∃ a secret, Fetches argv a ∧ Signs a settings secret
  overlong : Settings.Overlong env x

theorem prepared_of_overlong (hLoad : Settings.load env = .ok settings) (hFetches : Fetches argv a) {secret : String}
    {x : Number} (hSigns : Signs a settings secret) (hOverlong : Settings.Overlong env x) (now : Number) :
    prepared a env now = .error (.lifetime (.notPositiveInteger (.number x))) :=
  (prepared_eq_lifetime_iff hLoad hFetches).mpr
    ⟨secret, hSigns, (service_asked_eq_error_iff hLoad secret).mpr ⟨x, hOverlong, rfl⟩⟩

theorem exists_perform_lifetime_iff (hLoad : Settings.load env = .ok settings) (argv : List String) (w : World) :
    (∃ e after, (perform argv env).run w = (.error (.failure (.lifetime e)), after)) ↔
      ∃ x, Overstays argv env settings x := by
  simp only [perform_eq_lifetime_iff]
  constructor
  · rintro ⟨e, a, hFetches, hPrepared⟩
    obtain ⟨secret, hSigns, hError⟩ := (prepared_eq_lifetime_iff hLoad hFetches).mp hPrepared
    obtain ⟨x, hOverlong, -⟩ := (service_asked_eq_error_iff hLoad secret).mp hError
    exact ⟨x, ⟨a, secret, hFetches, hSigns⟩, hOverlong⟩
  · rintro ⟨x, ⟨a, secret, hFetches, hSigns⟩, hOverlong⟩
    exact ⟨_, a, hFetches, prepared_of_overlong hLoad hFetches hSigns hOverlong w.clock⟩

theorem run_of_overstays (hLoad : Settings.load env = .ok settings) {x : Number} (h : Overstays argv env settings x)
    (w : World) : ∃ after, (run argv env).run w = (.ok 1, after) ∧
      w.Shows after [.stderr ("ConfigError: " ++ ("token ttl must be a positive integer, got " ++ x.text))] := by
  obtain ⟨a, secret, hFetches, hSigns⟩ := h.exists_signs
  have hPrepared := prepared_of_overlong hLoad hFetches hSigns h.overlong w.clock
  have hLeveled := (asked_leveled a env w).shows
  have hName : WideText.ofString "ConfigError: " = "ConfigError" ++ ": " := by decide
  refine ⟨_, run_of_failure (run_perform_of_unprepared hFetches hPrepared), ?_⟩
  rw [hName]
  exact hLeveled.trans ⟨_, rfl, rfl⟩

/-- Settings that were accepted have a lifetime that tokens can have just when it is below `2 ^ 53`. A run reports a
longer one just when it comes to sign a token, and shows nothing else then. -/
theorem lifetime_usable_iff (hLoad : Settings.load env = .ok settings) :
    (∀ secret now, (∃ token, Token.service secret (asked settings) now = .ok token) ↔
      ¬ ∃ x, Settings.Overlong env x) ∧
    (∀ secret now x, Settings.Overlong env x → ∃ e, Token.service secret (asked settings) now = .error e ∧
      (Failure.lifetime e).name = "ConfigError" ∧
      (Failure.lifetime e).message = "token ttl must be a positive integer, got " ++ x.text) ∧
    ∀ argv w,
      ((∃ e after, (perform argv env).run w = (.error (.failure (.lifetime e)), after)) ↔
        ∃ x, Overstays argv env settings x) ∧
      ∀ x, Overstays argv env settings x → ∃ after, (run argv env).run w = (.ok 1, after) ∧
        w.Shows after [.stderr ("ConfigError: " ++ ("token ttl must be a positive integer, got " ++ x.text))] := by
  refine ⟨exists_service_asked_iff hLoad, ?_, fun argv w => ⟨?_, ?_⟩⟩
  · intro secret now x hOverlong
    exact ⟨_, (service_asked_eq_error_iff hLoad secret).mpr ⟨x, hOverlong, rfl⟩, rfl, rfl⟩
  · exact exists_perform_lifetime_iff hLoad argv w
  · intro x hOverstays
    exact run_of_overstays hLoad hOverstays w

def withLifetime (text : String) : Environment := [("SLICESTITCH_TOKEN_TTL", text)]

def lifetimeOnly (x : Number) : Settings := ⟨none, none, none, some x, none⟩

theorem lookup_withLifetime {text : String} (h : IsPositiveDecimal text) (v : Settings.Variable) :
    Settings.lookup (withLifetime text) v = if v = .tokenLifetime then some text else none := by
  have hSome : text ≠ "" := by
    rintro rfl
    obtain ⟨c, hMem, -⟩ := h.nonzero
    cases hMem
  cases v <;> simp [Settings.lookup, withLifetime, Settings.Variable.name, hSome]

theorem load_withLifetime {text : String} (h : IsPositiveDecimal text) :
    Settings.load (withLifetime text) = .ok (lifetimeOnly (Number.ofNat (decimal text))) := by
  have hRead : Settings.readLifetime text = .ok (Number.ofNat (decimal text)) :=
    Settings.readLifetime_eq_ok_iff.mpr ⟨h, Number.roundsTo_ofNat _⟩
  simp only [Settings.load, lookup_withLifetime h, reduceCtorEq, if_false, if_true]
  simp [hRead, lifetimeOnly]

theorem signs_secretArguments (x : Number) : Signs secretArguments (lifetimeOnly x) "s" := ⟨⟨"http://a", rfl⟩, rfl, rfl⟩

/-- The longest lifetime, and one second more. -/
theorem lifetime_usable_iff_longest :
    (∃ settings, Settings.load (withLifetime "9007199254740991") = .ok settings ∧
      ∃ token, Token.service "s" (asked settings) Number.zero = .ok token) ∧
    (∃ settings, Settings.load (withLifetime "9007199254740992") = .ok settings ∧
      ∃ e, Token.service "s" (asked settings) Number.zero = .error e ∧ (Failure.lifetime e).name = "ConfigError") ∧
    ∃ x after, Number.RoundsTo 9007199254740992 x ∧
      (run secretArgv (withLifetime "9007199254740992")).run freshWorld = (.ok 1, after) ∧
      freshWorld.Shows after
        [.stderr ("ConfigError: " ++ ("token ttl must be a positive integer, got " ++ x.text))] := by
  have hLongest : IsPositiveDecimal "9007199254740991" := ⟨by simp, '9', by simp, by decide⟩
  have hLonger : IsPositiveDecimal "9007199254740992" := ⟨by simp, '9', by simp, by decide⟩
  have hDecimal : decimal "9007199254740992" = 9007199254740992 := by decide
  have hRounds := Number.roundsTo_ofNat (decimal "9007199254740992")
  have hOverlong := (Settings.overlong_iff (lookup_withLifetime hLonger _)).mpr ⟨by decide, hRounds⟩
  have hShort : ¬ ∃ x, Settings.Overlong (withLifetime "9007199254740991") x := by
    rintro ⟨x, h⟩
    exact absurd ((Settings.overlong_iff (lookup_withLifetime hLongest _)).mp h).1 (by decide)
  obtain ⟨hUsable, -⟩ := lifetime_usable_iff (load_withLifetime hLongest)
  obtain ⟨-, hRefused, hRuns⟩ := lifetime_usable_iff (load_withLifetime hLonger)
  refine ⟨⟨_, load_withLifetime hLongest, ?_⟩, ⟨_, load_withLifetime hLonger, ?_⟩, ?_⟩
  · exact (hUsable "s" Number.zero).mpr hShort
  · obtain ⟨e, hError, hName, -⟩ := hRefused "s" Number.zero _ hOverlong
    exact ⟨e, hError, hName⟩
  · have hSigns := signs_secretArguments (Number.ofNat (decimal "9007199254740992"))
    obtain ⟨after, hRun, hShows⟩ := (hRuns secretArgv freshWorld).2 _ ⟨⟨_, "s", fetches_secretArgv, hSigns⟩, hOverlong⟩
    exact ⟨_, after, hDecimal ▸ hRounds, hRun, hShows⟩

end Command

end CubeSlice
