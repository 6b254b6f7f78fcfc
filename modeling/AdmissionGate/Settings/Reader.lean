import AdmissionGate.Settings.Environment

/-!
Settings out of an environment. Variables are read in a fixed order, then the settings are checked
as a whole, and the first error counts. Screening is strict in production unless a variable says
otherwise.
-/

namespace AdmissionGate

namespace Settings

def requirePositive (name : String) (value : Nat) : Except SettingsError Unit :=
  if value = 0 then .error (.notPositive name) else .ok ()

/-- The numbers that have to be positive, with their names, before the lengths of windows are
compared. -/
def positives (s : Settings) : List (String × Nat) :=
  [("RATE_LIMIT_REQUESTS", s.sustained.limit.toNat),
    ("RATE_LIMIT_PERIOD_SECS", s.sustained.window.toNat),
    ("RATE_LIMIT_BURST", s.burst.limit.toNat),
    ("RATE_LIMIT_BURST_PERIOD_SECS", s.burst.window.toNat),
    ("MAX_HEADER_BYTES", s.maxHeaderBytes),
    ("MAX_QUERY_BYTES", s.maxQueryBytes),
    ("MAX_BODY_BYTES", s.maxBodyBytes),
    ("MAX_JSON_DEPTH", s.maxJsonDepth)]

def check (s : Settings) : Except SettingsError Unit := do
  s.positives.forM fun (name, value) => requirePositive name value
  if s.sustained.window < s.burst.window then
    throw (.burstTooLong s.burst.window s.sustained.window)
  requirePositive "STORE_TIMEOUT_MS" s.storeTimeout.nanos
  requirePositive "SWEEP_INTERVAL_SECS" s.sweepInterval.nanos

/-- The settings that an environment spells, before they are checked as a whole. -/
def read (env : Environment) : Except SettingsError Settings := do
  let d := standard
  let environmentName := env.text "APP_ENV" d.environmentName
  let port ← env.port "PORT" d.port
  let rateLimiting ← env.flag "RATE_LIMIT_ENABLED" d.rateLimiting
  let sustainedLimit ← env.word "RATE_LIMIT_REQUESTS" d.sustained.limit
  let sustainedWindow ← env.word "RATE_LIMIT_PERIOD_SECS" d.sustained.window
  let burstLimit ← env.word "RATE_LIMIT_BURST" d.burst.limit
  let burstWindow ← env.word "RATE_LIMIT_BURST_PERIOD_SECS" d.burst.window
  let byIp ← env.flag "RATE_LIMIT_BY_IP" d.identity.byIp
  let byUser ← env.flag "RATE_LIMIT_BY_USER" d.identity.byUser
  let byEndpoint ← env.flag "RATE_LIMIT_BY_ENDPOINT" d.identity.byEndpoint
  let useSharedStore ← env.flag "RATE_LIMIT_USE_REDIS" true
  let storeTimeout ← env.word "STORE_TIMEOUT_MS" 250
  let sweepInterval ← env.word "SWEEP_INTERVAL_SECS" 60
  let screening ← env.flag "VALIDATION_ENABLED" d.screening
  let strict ← env.flag "VALIDATION_STRICT_MODE" (isProductionName environmentName)
  let maxHeaderBytes ← env.word "MAX_HEADER_BYTES" 8000
  let maxQueryBytes ← env.word "MAX_QUERY_BYTES" 2000
  let maxBodyBytes ← env.word "MAX_BODY_BYTES" 10485760
  let maxJsonDepth ← env.word "MAX_JSON_DEPTH" 10
  let logFormat ← env.format "LOG_FORMAT" d.logFormat
  let metricsPort ← env.port "METRICS_PORT" d.metricsPort
  return {
    host := env.text "HOST" d.host
    port, environmentName, rateLimiting
    sustained := ⟨sustainedLimit, sustainedWindow⟩
    burst := ⟨burstLimit, burstWindow⟩
    identity := ⟨byIp, byUser, byEndpoint⟩
    freePaths := env.paths "RATE_LIMIT_SKIP_PATHS" d.freePaths
    useSharedStore
    sharedStoreUrl := env.text "REDIS_URL" d.sharedStoreUrl
    keyStart := env.text "RATE_LIMIT_KEY_PREFIX" d.keyStart
    storeTimeout := .ofMillis storeTimeout.toNat
    sweepInterval := .ofSecs sweepInterval.toNat
    screening, strict
    maxHeaderBytes := maxHeaderBytes.toNat
    maxQueryBytes := maxQueryBytes.toNat
    maxBodyBytes := maxBodyBytes.toNat
    maxJsonDepth := maxJsonDepth.toNat
    unscreenedPaths := env.paths "VALIDATION_SKIP_PATHS" d.unscreenedPaths
    allowedOrigins := env.origins "CORS_ALLOWED_ORIGINS"
    logLevel := env.text "RUST_LOG" d.logLevel
    logFormat, metricsPort }

/-- The settings that an environment spells, if they are sound. -/
def ofEnvironment (env : Environment) : Except SettingsError Settings := do
  let s ← read env
  s.check
  return s

end Settings

end AdmissionGate
