import AdmissionGate.Proofs.Settings.Reading

/-!
# Settings by their variables

Which variable gives which field, and what it defaults to (`Settings.SpelledBy`); that the settings of the
limiter, the screen and the gate take these values over; when an environment can be read and fits
together (`Environment.Readable`, `Environment.Coherent`); and what an error says of an environment
(`SettingsError.Blames`). No more than one settings are spelled by an environment, and what is blamed is in
the way of any.
-/

namespace AdmissionGate

/-! ## Variables -/

namespace Environment

/-- The variables that stand for amounts, with their defaults. -/
def amountVariables : List (String × Nat) :=
  [("RATE_LIMIT_REQUESTS", 100), ("RATE_LIMIT_PERIOD_SECS", 60), ("RATE_LIMIT_BURST", 10),
    ("RATE_LIMIT_BURST_PERIOD_SECS", 1), ("STORE_TIMEOUT_MS", 250), ("SWEEP_INTERVAL_SECS", 60),
    ("MAX_HEADER_BYTES", 8000), ("MAX_QUERY_BYTES", 2000), ("MAX_BODY_BYTES", 10485760),
    ("MAX_JSON_DEPTH", 10)]

/-- The variables that stand for ports, which may be zero. -/
def portVariables : List String := ["PORT", "METRICS_PORT"]

/-- The variables that stand for truth values. -/
def flagVariables : List String :=
  ["RATE_LIMIT_ENABLED", "RATE_LIMIT_BY_IP", "RATE_LIMIT_BY_USER", "RATE_LIMIT_BY_ENDPOINT",
    "RATE_LIMIT_USE_REDIS", "VALIDATION_ENABLED", "VALIDATION_STRICT_MODE"]

/-- The amount that a variable stands for. -/
def Amount (env : Environment) (name : String) (default n : Nat) : Prop :=
  env.Gives name default (SpellsNumber Decimal.max64) n

/-- A variable gives one amount at most. -/
theorem Amount.unique {env : Environment} {name : String} {default m n : Nat}
    (hm : env.Amount name default m) (hn : env.Amount name default n) : m = n :=
  Gives.unique hm hn fun _ _ _ => SpellsNumber.unique

/-- Whatever is set of the variables that are more than texts can be read. -/
structure Readable (env : Environment) : Prop where
  amounts : ∀ v ∈ amountVariables, env.Reads v.1 (SpellsNumber Decimal.max64)
  ports : ∀ name ∈ portVariables, env.Reads name (SpellsNumber Decimal.max16)
  flags : ∀ name ∈ flagVariables, env.Reads name SpellsFlag
  format : env.Reads "LOG_FORMAT" SpellsFormat

/-- No amount is zero, and a burst is no longer than what it is a burst of. -/
structure Coherent (env : Environment) : Prop where
  positive : ∀ v ∈ amountVariables, ∀ n, env.Amount v.1 v.2 n → 1 ≤ n
  nested : ∀ burst sustained, env.Amount "RATE_LIMIT_BURST_PERIOD_SECS" 1 burst →
    env.Amount "RATE_LIMIT_PERIOD_SECS" 60 sustained → burst ≤ sustained

end Environment

/-- What an error says is so. -/
def SettingsError.Blames (env : Environment) : SettingsError → Prop
  | .number name _ =>
    ((∃ v ∈ Environment.amountVariables, v.1 = name) ∧ ¬ env.Reads name (SpellsNumber Decimal.max64)) ∨
      (name ∈ Environment.portVariables ∧ ¬ env.Reads name (SpellsNumber Decimal.max16))
  | .flag name value =>
    name ∈ Environment.flagVariables ∧ env.get? name = some value ∧ ¬ env.Reads name SpellsFlag
  | .format name _ => name = "LOG_FORMAT" ∧ ¬ env.Reads name SpellsFormat
  | .notPositive name => ∃ v ∈ Environment.amountVariables, v.1 = name ∧ env.Amount v.1 v.2 0
  | .burstTooLong burst sustained =>
    env.Amount "RATE_LIMIT_BURST_PERIOD_SECS" 1 burst.toNat ∧
      env.Amount "RATE_LIMIT_PERIOD_SECS" 60 sustained.toNat ∧ sustained < burst

/-! ## Settings by their variables -/

/-- The limits of the windows are given by their variables. -/
structure Limits.SpelledBy (l : Limits) (env : Environment) : Prop where
  sustainedLimit : env.Amount "RATE_LIMIT_REQUESTS" 100 l.sustained.limit.toNat
  sustainedWindow : env.Amount "RATE_LIMIT_PERIOD_SECS" 60 l.sustained.window.toNat
  burstLimit : env.Amount "RATE_LIMIT_BURST" 10 l.burst.limit.toNat
  burstWindow : env.Amount "RATE_LIMIT_BURST_PERIOD_SECS" 1 l.burst.window.toNat
  storeTimeout : ∃ n, env.Amount "STORE_TIMEOUT_MS" 250 n ∧ l.storeTimeout = .ofMillis n

/-- How requests are screened is given by its variables. -/
structure ScreeningSettings.SpelledBy (c : ScreeningSettings) (env : Environment) : Prop where
  strict : ∀ place, env.Gives "APP_ENV" "development" Eq place →
    env.Gives "VALIDATION_STRICT_MODE"
      (decide (place.toList.map Char.toLower = "production".toList)) SpellsFlag c.strict
  maxHeaderBytes : env.Amount "MAX_HEADER_BYTES" 8000 c.maxHeaderBytes
  maxQueryBytes : env.Amount "MAX_QUERY_BYTES" 2000 c.maxQueryBytes
  maxBodyBytes : env.Amount "MAX_BODY_BYTES" 10485760 c.maxBodyBytes
  maxJsonDepth : env.Amount "MAX_JSON_DEPTH" 10 c.maxJsonDepth

/-- The stages of the gate are given by their variables. -/
structure AdmissionSettings.SpelledBy (a : AdmissionSettings) (env : Environment) : Prop where
  rateLimiting : env.Gives "RATE_LIMIT_ENABLED" true SpellsFlag a.rateLimiting
  screening : env.Gives "VALIDATION_ENABLED" true SpellsFlag a.screening
  byIp : env.Gives "RATE_LIMIT_BY_IP" true SpellsFlag a.identity.byIp
  byUser : env.Gives "RATE_LIMIT_BY_USER" true SpellsFlag a.identity.byUser
  byEndpoint : env.Gives "RATE_LIMIT_BY_ENDPOINT" false SpellsFlag a.identity.byEndpoint
  freePaths : env.Gives "RATE_LIMIT_SKIP_PATHS"
    ["/health", "/", "/docs", "/openapi.json", "/redoc"] SpellsPaths a.freePaths
  unscreenedPaths : env.Gives "VALIDATION_SKIP_PATHS"
    ["/docs", "/openapi.json", "/redoc", "/health", "/api/v1/files/upload"] SpellsPaths
    a.unscreenedPaths

/-- Every field is given by its own variable. Screening is strict in production, in whatever case that is
written, unless it is said. -/
structure Settings.SpelledBy (s : Settings) (env : Environment) : Prop where
  host : env.Gives "HOST" "0.0.0.0" Eq s.host
  port : env.Gives "PORT" 8000 (SpellsNumber Decimal.max16) s.port.toNat
  environmentName : env.Gives "APP_ENV" "development" Eq s.environmentName
  rateLimiting : env.Gives "RATE_LIMIT_ENABLED" true SpellsFlag s.rateLimiting
  sustainedLimit : env.Amount "RATE_LIMIT_REQUESTS" 100 s.sustained.limit.toNat
  sustainedWindow : env.Amount "RATE_LIMIT_PERIOD_SECS" 60 s.sustained.window.toNat
  burstLimit : env.Amount "RATE_LIMIT_BURST" 10 s.burst.limit.toNat
  burstWindow : env.Amount "RATE_LIMIT_BURST_PERIOD_SECS" 1 s.burst.window.toNat
  byIp : env.Gives "RATE_LIMIT_BY_IP" true SpellsFlag s.identity.byIp
  byUser : env.Gives "RATE_LIMIT_BY_USER" true SpellsFlag s.identity.byUser
  byEndpoint : env.Gives "RATE_LIMIT_BY_ENDPOINT" false SpellsFlag s.identity.byEndpoint
  freePaths : env.Gives "RATE_LIMIT_SKIP_PATHS"
    ["/health", "/", "/docs", "/openapi.json", "/redoc"] SpellsPaths s.freePaths
  useSharedStore : env.Gives "RATE_LIMIT_USE_REDIS" true SpellsFlag s.useSharedStore
  sharedStoreUrl : env.Gives "REDIS_URL" "redis://127.0.0.1:6379/0" Eq s.sharedStoreUrl
  keyStart : env.Gives "RATE_LIMIT_KEY_PREFIX" "rate_limit:" Eq s.keyStart
  storeTimeout : ∃ n, env.Amount "STORE_TIMEOUT_MS" 250 n ∧ s.storeTimeout = .ofMillis n
  sweepInterval : ∃ n, env.Amount "SWEEP_INTERVAL_SECS" 60 n ∧ s.sweepInterval = .ofSecs n
  screening : env.Gives "VALIDATION_ENABLED" true SpellsFlag s.screening
  strict : ∀ place, env.Gives "APP_ENV" "development" Eq place →
    env.Gives "VALIDATION_STRICT_MODE"
      (decide (place.toList.map Char.toLower = "production".toList)) SpellsFlag s.strict
  maxHeaderBytes : env.Amount "MAX_HEADER_BYTES" 8000 s.maxHeaderBytes
  maxQueryBytes : env.Amount "MAX_QUERY_BYTES" 2000 s.maxQueryBytes
  maxBodyBytes : env.Amount "MAX_BODY_BYTES" 10485760 s.maxBodyBytes
  maxJsonDepth : env.Amount "MAX_JSON_DEPTH" 10 s.maxJsonDepth
  unscreenedPaths : env.Gives "VALIDATION_SKIP_PATHS"
    ["/docs", "/openapi.json", "/redoc", "/health", "/api/v1/files/upload"] SpellsPaths
    s.unscreenedPaths
  allowedOrigins : env.Gives "CORS_ALLOWED_ORIGINS" ["*"] SpellsOrigins s.allowedOrigins
  logLevel : env.Gives "RUST_LOG" "info" Eq s.logLevel
  logFormat : env.Gives "LOG_FORMAT" .pretty SpellsFormat s.logFormat
  metricsPort : env.Gives "METRICS_PORT" 9090 (SpellsNumber Decimal.max16) s.metricsPort.toNat

/-! ### What follows from the settings -/

section Parts

variable {s : Settings} {env : Environment} (h : s.SpelledBy env)

include h

/-- The limits take over what is spelled of the windows. -/
theorem Settings.SpelledBy.limits : s.limits.SpelledBy env :=
  ⟨h.sustainedLimit, h.sustainedWindow, h.burstLimit, h.burstWindow, h.storeTimeout⟩

/-- The screen takes over what is spelled of screening. -/
theorem Settings.SpelledBy.screeningSettings : s.screeningSettings.SpelledBy env :=
  ⟨h.strict, h.maxHeaderBytes, h.maxQueryBytes, h.maxBodyBytes, h.maxJsonDepth⟩

/-- The gate takes over which stages are on, whom they tell apart and which paths go round them. -/
theorem Settings.SpelledBy.admission : s.admission.SpelledBy env :=
  ⟨h.rateLimiting, h.screening, h.byIp, h.byUser, h.byEndpoint, h.freePaths, h.unscreenedPaths⟩

end Parts

section Unique

variable {env : Environment} {name : String}

namespace Environment

theorem Gives.text_unique {default a b : String} (ha : env.Gives name default Eq a)
    (hb : env.Gives name default Eq b) : a = b :=
  ha.unique hb fun _ _ _ hta htb => hta.symm.trans htb

theorem Gives.flag_unique {default a b : Bool} (ha : env.Gives name default SpellsFlag a)
    (hb : env.Gives name default SpellsFlag b) : a = b :=
  ha.unique hb fun _ _ _ => SpellsFlag.unique

theorem Gives.paths_unique {default a b : List String} (ha : env.Gives name default SpellsPaths a)
    (hb : env.Gives name default SpellsPaths b) : a = b := by
  refine ha.unique hb ?_
  intro text a b hta htb
  rw [spellsPaths_iff.mp hta, spellsPaths_iff.mp htb]

theorem Amount.word_unique {default : Nat} {a b : UInt64}
    (ha : env.Amount name default a.toNat) (hb : env.Amount name default b.toNat) : a = b :=
  UInt64.toNat_inj.mp (ha.unique hb)

theorem Gives.port_unique {default : Nat} {a b : UInt16}
    (ha : env.Gives name default (SpellsNumber Decimal.max16) a.toNat)
    (hb : env.Gives name default (SpellsNumber Decimal.max16) b.toNat) : a = b :=
  UInt16.toNat_inj.mp (ha.unique hb fun _ _ _ => SpellsNumber.unique)

end Environment

/-- An environment spells one set of limits at most. -/
theorem Limits.SpelledBy.unique {l m : Limits} (hl : l.SpelledBy env) (hm : m.SpelledBy env) :
    l = m := by
  obtain ⟨⟨_, _⟩, ⟨_, _⟩, _⟩ := l
  obtain ⟨⟨_, _⟩, ⟨_, _⟩, _⟩ := m
  obtain ⟨i, hi, hli⟩ := hl.storeTimeout
  obtain ⟨j, hj, hmj⟩ := hm.storeTimeout
  obtain rfl := hi.unique hj
  obtain rfl := hl.sustainedLimit.word_unique hm.sustainedLimit
  obtain rfl := hl.sustainedWindow.word_unique hm.sustainedWindow
  obtain rfl := hl.burstLimit.word_unique hm.burstLimit
  obtain rfl := hl.burstWindow.word_unique hm.burstWindow
  obtain rfl := hli.trans hmj.symm
  rfl

theorem ScreeningSettings.SpelledBy.unique {c d : ScreeningSettings} (hc : c.SpelledBy env)
    (hd : d.SpelledBy env) : c = d := by
  obtain ⟨_, _, _, _, _⟩ := c
  obtain ⟨_, _, _, _, _⟩ := d
  have hplace : env.Gives "APP_ENV" "development" Eq (env.text "APP_ENV" "development") :=
    Environment.gives_text
  obtain rfl := (hc.strict _ hplace).flag_unique (hd.strict _ hplace)
  obtain rfl := hc.maxHeaderBytes.unique hd.maxHeaderBytes
  obtain rfl := hc.maxQueryBytes.unique hd.maxQueryBytes
  obtain rfl := hc.maxBodyBytes.unique hd.maxBodyBytes
  obtain rfl := hc.maxJsonDepth.unique hd.maxJsonDepth
  rfl

theorem AdmissionSettings.SpelledBy.unique {a b : AdmissionSettings} (ha : a.SpelledBy env)
    (hb : b.SpelledBy env) : a = b := by
  obtain ⟨_, _, ⟨_, _, _⟩, _, _⟩ := a
  obtain ⟨_, _, ⟨_, _, _⟩, _, _⟩ := b
  obtain rfl := ha.rateLimiting.flag_unique hb.rateLimiting
  obtain rfl := ha.screening.flag_unique hb.screening
  obtain rfl := ha.byIp.flag_unique hb.byIp
  obtain rfl := ha.byUser.flag_unique hb.byUser
  obtain rfl := ha.byEndpoint.flag_unique hb.byEndpoint
  obtain rfl := ha.freePaths.paths_unique hb.freePaths
  obtain rfl := ha.unscreenedPaths.paths_unique hb.unscreenedPaths
  rfl

/-- An environment spells no more than one settings. -/
theorem Settings.SpelledBy.unique {s t : Settings} (hs : s.SpelledBy env) (ht : t.SpelledBy env) :
    s = t := by
  have hlimits : s.limits = t.limits := hs.limits.unique ht.limits
  have hadmission : s.admission = t.admission := hs.admission.unique ht.admission
  have hscreen : s.screeningSettings = t.screeningSettings :=
    hs.screeningSettings.unique ht.screeningSettings
  have horigins : s.allowedOrigins = t.allowedOrigins := by
    refine hs.allowedOrigins.unique ht.allowedOrigins ?_
    intro text a b ha hb
    rw [spellsOrigins_iff.mp ha, spellsOrigins_iff.mp hb]
  have hformat : s.logFormat = t.logFormat :=
    hs.logFormat.unique ht.logFormat fun _ _ _ => SpellsFormat.unique
  obtain ⟨i, hi, hsi⟩ := hs.sweepInterval
  obtain ⟨j, hj, htj⟩ := ht.sweepInterval
  obtain rfl := hi.unique hj
  have hsweep : s.sweepInterval = t.sweepInterval := hsi.trans htj.symm
  have hhost := hs.host.text_unique ht.host
  have hport := hs.port.port_unique ht.port
  have hplace := hs.environmentName.text_unique ht.environmentName
  have hshared := hs.useSharedStore.flag_unique ht.useSharedStore
  have hurl := hs.sharedStoreUrl.text_unique ht.sharedStoreUrl
  have hkey := hs.keyStart.text_unique ht.keyStart
  have hlevel := hs.logLevel.text_unique ht.logLevel
  have hmetrics := hs.metricsPort.port_unique ht.metricsPort
  obtain ⟨hsustained, hburst, htimeout⟩ := Limits.mk.inj hlimits
  obtain ⟨hlimiting, hscreening, hidentity, hfree, hunscreened⟩ := AdmissionSettings.mk.inj hadmission
  obtain ⟨hstrict, hheader, hquery, hbody, hdepth⟩ := ScreeningSettings.mk.inj hscreen
  -- all fields are equal by now
  obtain ⟨⟨_, _, _, _, _⟩⟩ := s
  obtain ⟨⟨_, _, _, _, _⟩⟩ := t
  simp only at *
  subst_vars
  rfl

end Unique

/-- What is blamed is in the way of any settings. -/
theorem SettingsError.Blames.not_sound {env : Environment} {e : SettingsError} (h : e.Blames env) :
    ¬ (env.Readable ∧ env.Coherent) := by
  rintro ⟨hreadable, hcoherent⟩
  cases e with
  | number name cause =>
    rcases h with ⟨⟨v, hv, rfl⟩, hreads⟩ | ⟨hname, hreads⟩
    · exact hreads (hreadable.amounts v hv)
    · exact hreads (hreadable.ports name hname)
  | flag name value =>
    obtain ⟨hname, -, hreads⟩ := h
    exact hreads (hreadable.flags name hname)
  | format name word =>
    obtain ⟨rfl, hreads⟩ := h
    exact hreads hreadable.format
  | notPositive name =>
    obtain ⟨v, hv, -, hzero⟩ := h
    have := hcoherent.positive v hv 0 hzero
    omega
  | burstTooLong burst sustained =>
    obtain ⟨hburst, hsustained, hlt⟩ := h
    have := hcoherent.nested _ _ hburst hsustained
    have := UInt64.lt_iff_toNat_lt.mp hlt
    omega

end AdmissionGate
