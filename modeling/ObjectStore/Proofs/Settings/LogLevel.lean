import Mathlib
import ObjectStore.Log.Registry
import ObjectStore.Proofs.Settings.Parts

/-! # The log level of a client

A client that is made from settings sets the level of this library's logger before anything else,
and the level stays set when no connection can be made afterwards. So the level is the one of the
settings in any case. That a client was made or the level was left as it was can only be said of
settings whose address, headers and key can be used, or whose level is the current one.

* `Registry.level_setLevel`: the level of a logger that was set.
* `Registry.effects`: effects on the loggers.
* `Client.SetsOrKeepsLevel`: that a client is made with its level, or the level is left.
* `Client.setsOrKeepsLevel_iff`: when this is so. -/

namespace ObjectStore

/-! ## Levels of loggers -/

namespace Registry

variable {l : Logger} {name : String}

/-- `(r.logger name).name = keyOf name`: A logger is found under its name. -/
theorem name_logger (r : Registry) (name : String) : (r.logger name).name = keyOf name := by
  rw [logger]
  cases h : r.loggers.find? (·.name == keyOf name) with
  | none => rfl
  | some l => simpa using List.find?_some h

/-- `(r.store l).logger name = l`: A logger that is put in the place of another is found there. -/
theorem logger_store (h : l.name = keyOf name) (r : Registry) : (r.store l).logger name = l := by
  simp [logger, store, h]

/-- `levelOf (.text level.name) = .ok level.number`. -/
theorem levelOf_name (level : Level) : levelOf (.text level.name) = .ok level.number := by
  have hnumber : levelNumbers.lookup level.name = some level.number := by
    cases level <;> decide
  simp only [levelOf, Level.capital_name, hnumber]

/-- `r.get name = (.ok l, r')`: there is a logger of every name; what has to be set up can be. -/
theorem exists_get (r : Registry) (name : String) :
    ∃ l r', r.get name = (.ok l, r') ∧ l.name = keyOf name := by
  have hsetup : ∃ l r', r.setup name (.text Level.info.name) none false = (.ok l, r') ∧
      l.name = keyOf name := by
    rw [setup]
    dsimp only
    rw [levelOf_name]
    exact ⟨_, _, rfl, name_logger _ name⟩
  unfold get
  split
  · exact ⟨_, _, rfl, name_logger r name⟩
  · split
    · exact ⟨_, _, rfl, name_logger _ name⟩
    · exact hsetup

/-- A level that is set is the level of the logger. -/
theorem level_setLevel (r : Registry) (level : Level) (name : String) :
    ((r.setLevel (.text level.name) name).2.logger name).level = level.number := by
  obtain ⟨l, r', hget, hname⟩ := exists_get r name
  have hset : r.setLevel (.text level.name) name =
      (.ok (), r'.store { l with level := level.number }) := by
    rw [setLevel, hget]
    dsimp only
    rw [levelOf_name]
  rw [hset]
  exact congrArg Logger.level (logger_store (l := { l with level := level.number }) hname r')

/-- The level of this library's logger in `r`. -/
def packageLevel (r : Registry) : Int := (r.logger packageName).level

/-- Effects on the loggers: records are logged, and the level is that of this library's logger. No
time passes. -/
def effects : Effects Registry where
  log record r := (r.emit record.logger record.level.number record.message).2
  sleep _ r := r
  clock r := (.int 0, r)
  setLevel level r := (r.setLevel (.text level.name) packageName).2

/-- `(effects.setLevel level r).packageLevel = level.number`: the level that is set is the level of
this library's logger. -/
theorem packageLevel_setLevel (level : Level) (r : Registry) :
    (effects.setLevel level r).packageLevel = level.number :=
  level_setLevel r level packageName

end Registry

/-! ## Clients from settings -/

namespace Client

/-- That a connection can be made from `s`: the address is a text, the headers are none or can be
read as a mapping, and the key is none or can be written. -/
def IsConnectable (s : Settings) : Prop :=
  HttpConnection.IsUsable s.connection.url s.connection.headers s.connection.apiKey

/-- That the making of a client from `s` either returns one, and then the level of this library's
logger is `s.logLevel`, or fails and leaves the level as it was in `r`. -/
def SetsOrKeepsLevel (s : Settings) (r : Registry) : Prop :=
  ((∃ client, (ofSettings Registry.effects s r).1 = .ok client) ∧
      (ofSettings Registry.effects s r).2.packageLevel = s.logLevel.number) ∨
    ((∃ e, (ofSettings Registry.effects s r).1 = .error e) ∧
      (ofSettings Registry.effects s r).2.packageLevel = r.packageLevel)

/-- A client is made from settings exactly if `IsConnectable s`. -/
theorem exists_ofSettings_iff {σ : Type} (fx : Effects σ) (s : Settings) (state : σ) :
    (∃ client, (ofSettings fx s state).1 = .ok client) ↔ IsConnectable s := by
  rw [IsConnectable, ← HttpConnection.exists_make_iff, ofSettings_run]
  constructor
  · rintro ⟨client, hclient⟩
    obtain ⟨c, hc, -⟩ := map_eq_ok hclient
    exact ⟨c, hc⟩
  · rintro ⟨c, hc⟩
    exact ⟨_, congrArg (Except.map _) hc⟩

/-- `ofSettings` sets the level of the settings, whether a client is made or not. -/
theorem packageLevel_ofSettings (s : Settings) (r : Registry) :
    (ofSettings Registry.effects s r).2.packageLevel = s.logLevel.number := by
  rw [ofSettings_run]
  exact Registry.packageLevel_setLevel s.logLevel r

/-- The level of this library's logger is `s.logLevel` afterwards, whether a client is returned,
which is so exactly if `IsConnectable s`, or not. So a failure leaves the level as it was only if it
was the one of the settings before. -/
theorem setsOrKeepsLevel_iff (s : Settings) (r : Registry) :
    (ofSettings Registry.effects s r).2.packageLevel = s.logLevel.number ∧
      ((∃ client, (ofSettings Registry.effects s r).1 = .ok client) ↔ IsConnectable s) ∧
      (SetsOrKeepsLevel s r ↔ IsConnectable s ∨ r.packageLevel = s.logLevel.number) := by
  have hlevel := packageLevel_ofSettings s r
  have hclient := exists_ofSettings_iff Registry.effects s r
  refine ⟨hlevel, hclient, ?_⟩
  rw [SetsOrKeepsLevel, hlevel, hclient]
  constructor
  · rintro (⟨hconnectable, -⟩ | ⟨-, hkept⟩)
    · exact .inl hconnectable
    · exact .inr hkept.symm
  · intro h
    by_cases hconnectable : IsConnectable s
    · exact .inl ⟨hconnectable, rfl⟩
    · refine .inr ⟨?_, (h.resolve_left hconnectable).symm⟩
      cases houtcome : (ofSettings Registry.effects s r).1 with
      | error e => exact ⟨e, rfl⟩
      | ok client => exact absurd (hclient.mp ⟨client, houtcome⟩) hconnectable

/-- Settings whose address is a number are accepted. No client can be made from them, and yet the
level is no more the one from the start. -/
theorem not_setsOrKeepsLevel_addressNumber :
    ∃ s, Settings.ofValue (.dict (Settings.addressEntries (.int 8080))) = .ok s ∧
      (ofSettings Registry.effects s Registry.initial).1 = .error .missingAttribute ∧
      Registry.initial.packageLevel = 10 ∧
      (ofSettings Registry.effects s Registry.initial).2.packageLevel = 20 ∧
      ¬ SetsOrKeepsLevel s Registry.initial := by
  have hfails : (ofSettings Registry.effects (Settings.withAddress (.int 8080))
      Registry.initial).1 = .error .missingAttribute := by
    rw [ofSettings_run]
    rfl
  have hbefore : Registry.initial.packageLevel = 10 := by decide
  have hafter := packageLevel_ofSettings (Settings.withAddress (.int 8080)) Registry.initial
  refine ⟨_, Settings.ofValue_addressEntries rfl, hfails, hbefore, hafter, ?_⟩
  rw [SetsOrKeepsLevel, hfails, hafter, hbefore]
  rintro (⟨⟨client, hclient⟩, -⟩ | ⟨-, hkept⟩)
  · cases hclient
  · exact absurd hkept (by decide)

end Client

end ObjectStore
