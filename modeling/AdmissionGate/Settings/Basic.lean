import AdmissionGate.Admission.Settings
import AdmissionGate.Quota.Tier
import AdmissionGate.Screening.Settings

/-!
Settings of the service, and the settings of its parts that follow from them.
-/

namespace AdmissionGate

inductive LogFormat where
  | pretty
  | json
  deriving DecidableEq, Repr

def LogFormat.name : LogFormat → String
  | .pretty => "pretty"
  | .json => "json"

/-- What is set about screening. -/
structure ScreeningValues where
  /-- Whether suspicious values are refused and not only reported. -/
  strict : Bool
  maxHeaderBytes : Nat
  maxQueryBytes : Nat
  maxBodyBytes : Nat
  maxJsonDepth : Nat
  deriving DecidableEq, Repr

structure Settings extends screen : ScreeningValues where
  host : String
  port : UInt16
  environmentName : String
  rateLimiting : Bool
  /-- Requests of a sustained window, and its length in seconds. -/
  sustained : TierLimit
  /-- Requests of a burst window, and its length in seconds. -/
  burst : TierLimit
  identity : IdentitySettings
  freePaths : List String
  /-- Whether windows are kept in a store that processes share. -/
  useSharedStore : Bool
  sharedStoreUrl : String
  keyStart : String
  storeTimeout : Duration
  sweepInterval : Duration
  screening : Bool
  unscreenedPaths : List String
  /-- The origins that browsers may call from; an asterisk stands for all. -/
  allowedOrigins : List String
  logLevel : String
  logFormat : LogFormat
  /-- The port of the metrics; zero for none. -/
  metricsPort : UInt16
  deriving DecidableEq, Repr

namespace Settings

/-- Settings for development, with windows in memory. -/
def standard : Settings where
  host := "0.0.0.0"
  port := 8000
  environmentName := "development"
  rateLimiting := true
  sustained := ⟨100, 60⟩
  burst := ⟨10, 1⟩
  identity := .standard
  freePaths := AdmissionSettings.usualFreePaths
  useSharedStore := false
  sharedStoreUrl := "redis://127.0.0.1:6379/0"
  keyStart := "rate_limit:"
  storeTimeout := .ofMillis 250
  sweepInterval := .ofSecs 60
  screening := true
  strict := false
  maxHeaderBytes := 8000
  maxQueryBytes := 2000
  maxBodyBytes := 10 * 1024 * 1024
  maxJsonDepth := 10
  unscreenedPaths := AdmissionSettings.usualUnscreenedPaths
  allowedOrigins := ["*"]
  logLevel := "info"
  logFormat := .pretty
  metricsPort := 9090

/-- Whether an environment is the one for production. -/
def isProductionName (name : String) : Bool :=
  Text.eqIgnoringAsciiCase name "production"

def isProduction (s : Settings) : Bool := isProductionName s.environmentName

/-- The address that the service listens on. -/
def serverAddress (s : Settings) : String := s.host ++ ":" ++ toString s.port.toNat

/-- The address of the metrics, if there are any. -/
def metricsAddress? (s : Settings) : Option String :=
  if s.metricsPort = 0 then none else some ("0.0.0.0:" ++ toString s.metricsPort.toNat)

def limits (s : Settings) : Limits := ⟨s.sustained, s.burst, s.storeTimeout⟩

def screeningSettings (s : Settings) : ScreeningSettings where
  strict := s.strict
  maxHeaderBytes := s.maxHeaderBytes
  maxQueryBytes := s.maxQueryBytes
  maxBodyBytes := s.maxBodyBytes
  maxJsonDepth := s.maxJsonDepth

def admission (s : Settings) : AdmissionSettings :=
  ⟨s.rateLimiting, s.screening, s.identity, s.freePaths, s.unscreenedPaths⟩

end Settings

end AdmissionGate
