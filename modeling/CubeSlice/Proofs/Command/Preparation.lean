import CubeSlice.Command.Run
import CubeSlice.Proofs.Client
import CubeSlice.Proofs.Traversal

/-!
# What a run works with

Arguments, settings and clock decide before the first request which client asks for what, and which
level is heard. A run that is not ready ends there.
-/

namespace CubeSlice

namespace Settings

variable {env : Environment} {settings : Settings}

theorem load_eq_ok (h : load env = .ok settings) :
    settings.token = lookup env .token ∧ settings.secret = lookup env .secret ∧
      (lookup env .tokenLifetime).mapM readLifetime = .ok settings.tokenLifetime ∧
      (lookup env .logLevel).mapM readLevel = .ok settings.logLevel := by
  obtain ⟨baseUrl, -, hRest⟩ := Traversal.bind_eq_ok_iff.mp h
  obtain ⟨lifetime, hLifetime, hRest⟩ := Traversal.bind_eq_ok_iff.mp hRest
  obtain ⟨level, hLevel, hRest⟩ := Traversal.bind_eq_ok_iff.mp hRest
  cases hRest
  exact ⟨rfl, rfl, hLifetime, hLevel⟩

end Settings

namespace Command

variable (a : Arguments) (settings : Settings)

def ready (now : Number) : Except Failure (Client × Arguments.Target) :=
  match a.baseUrl <|> settings.baseUrl with
  | none => .error (.usage .baseUrlRequired)
  | some baseUrl => do
    let target ← a.target.mapError .usage
    let token ← (tokenFor a settings now).mapError .lifetime
    return (⟨baseUrl, token⟩, target)

def withLevel (w : World) : World := { w with level := (levelFor a settings).getD w.level }

def prepared (env : Environment) (now : Number) : Except Failure (Client × Arguments.Target) :=
  match Settings.load env with
  | .error e => .error (.settings e)
  | .ok settings => ready a settings now

def leveled (env : Environment) (w : World) : World :=
  match Settings.load env with
  | .error _ => w
  | .ok settings => withLevel a settings w

section Accepted

variable {a settings} {env : Environment}

theorem prepared_of_load (h : Settings.load env = .ok settings) (now : Number) :
    prepared a env now = ready a settings now := by
  rw [prepared, h]

theorem leveled_of_load (h : Settings.load env = .ok settings) (w : World) :
    leveled a env w = withLevel a settings w := by
  rw [leveled, h]

end Accepted

section Ready

variable {a settings} {env : Environment} {now : Number} {client : Client} {target : Arguments.Target}

theorem ready_eq_ok_iff : ready a settings now = .ok (client, target) ↔
    (a.baseUrl <|> settings.baseUrl) = some client.baseUrl ∧ a.target = .ok target ∧
      tokenFor a settings now = .ok client.token := by
  obtain ⟨baseUrl, token⟩ := client
  unfold ready
  constructor
  · intro h
    split at h
    · cases h
    · rename_i hUrl
      obtain ⟨target', hTarget, hRest⟩ := Traversal.bind_eq_ok_iff.mp h
      obtain ⟨token', hToken, hReady⟩ := Traversal.bind_eq_ok_iff.mp hRest
      cases hReady
      exact ⟨hUrl, Traversal.mapError_eq_ok_iff.mp hTarget, Traversal.mapError_eq_ok_iff.mp hToken⟩
  · rintro ⟨hUrl, hTarget, hToken⟩
    rw [hUrl, hTarget, hToken]
    rfl

theorem prepared_eq_ok_iff : prepared a env now = .ok (client, target) ↔
    ∃ settings, Settings.load env = .ok settings ∧ ready a settings now = .ok (client, target) := by
  unfold prepared
  cases Settings.load env with
  | error e => simp
  | ok settings => simp

end Ready

theorem asked_leveled (env : Environment) (w : World) : w.Asked (leveled a env w) [] := by
  unfold leveled
  cases Settings.load env with
  | error e => exact .of_eq rfl rfl
  | ok settings => exact .of_eq rfl rfl

theorem disk_leveled (env : Environment) (w : World) : (leveled a env w).disk = w.disk := by
  unfold leveled
  cases Settings.load env <;> rfl

theorem events_leveled (env : Environment) (w : World) : (leveled a env w).events = w.events := by
  unfold leveled
  cases Settings.load env <;> rfl

theorem leveled_onDisk (env : Environment) (w : World) (disk : Disk) :
    leveled a env (w.onDisk disk) = (leveled a env w).onDisk disk := by
  unfold leveled
  cases Settings.load env <;> rfl

def proceed (outcome : Except Failure (Client × Arguments.Target)) (w : World) :
    Except Interruption Unit × World :=
  match outcome with
  | .error f => (.error (.failure f), w)
  | .ok (client, target) => (fetch a client target).run w

theorem run_ready (w : World) :
    (match a.baseUrl <|> settings.baseUrl with
      | none => Session.fail (.usage .baseUrlRequired)
      | some baseUrl => do
        let target ← Session.ofExcept .usage a.target
        let token ← Session.ofExcept .lifetime (tokenFor a settings (← Session.now))
        fetch a ⟨baseUrl, token⟩ target : Session Unit).run w = proceed a (ready a settings w.clock) w := by
  unfold ready
  cases a.baseUrl <|> settings.baseUrl with
  | none => rfl
  | some baseUrl =>
    cases a.target with
    | error e => rfl
    | ok target =>
      rw [Session.run_ofExcept_ok_bind, Session.run_now_bind]
      cases tokenFor a settings w.clock with
      | error e => rfl
      | ok token => rfl

theorem run_execute (env : Environment) (w : World) :
    (execute a env).run w = proceed a (prepared a env w.clock) (leveled a env w) := by
  unfold execute prepared leveled
  cases Settings.load env with
  | error e => rfl
  | ok settings =>
    rw [Session.run_ofExcept_ok_bind]
    dsimp only [withLevel]
    cases levelFor a settings with
    | none => exact run_ready a settings w
    | some level => exact run_ready a settings { w with level := level }

end Command

end CubeSlice
