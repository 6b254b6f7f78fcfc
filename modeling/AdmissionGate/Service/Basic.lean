import AdmissionGate.Service.CrossOrigin
import AdmissionGate.Service.Handler
import AdmissionGate.Service.Upkeep

/-!
The service: endpoints behind a gate, upkeep in the background, and headers for other origins around
it all. Paths without an endpoint and preflights do not reach the gate.
-/

namespace AdmissionGate

/-- A service with a shared store of states in `σ` for windows over instants of `τ`. -/
structure Service (τ σ : Type) where
  settings : Settings
  limiter : Limiter τ σ
  upkeep : Upkeep

namespace Service

variable {τ σ : Type} [Instant τ] [SharedStore σ τ]

/-- A service that begins, and what it reports. -/
def start (settings : Settings) (shared : Option σ) : Service τ σ × List Event :=
  let limiter := Limiter.start settings.limits shared
  let gate := settings.admission
  (⟨settings, limiter, .start settings.sweepInterval⟩,
    [.configured gate.rateLimiting gate.screening settings.screeningSettings.strict limiter.backend])

/-- The gate in front of the endpoints. -/
def gate (s : Service τ σ) : Gate := ⟨s.settings.admission, s.settings.screeningSettings⟩

/-- Handles a request for an endpoint at `now`. -/
def visit (s : Service τ σ) (now : τ) (m : Moment) (e : Endpoint)
    (params : Option (List (String × String))) (r : Request) :
    Service τ σ × Response × List Event :=
  let meanwhile := s.upkeep.duringWait now s.settings.storeTimeout
  let (limiter, served) : Limiter τ σ × Served Empty :=
    Id.run (s.gate.handle s.limiter now { r with pathParams := params.getD [] }
      (fun l r => e.answer s.settings l m params r) meanwhile)
  let s := { s with limiter, upkeep := s.upkeep.afterEvents served.events }
  match served.result with
  | .ok response => (s, e.outgoing r.method response, served.events)
  | .error impossible => nomatch impossible

/-- The endpoint that a path leads to, and the parameters of the path. -/
def locate? (path : String) : Option (Endpoint × Option (List (String × String))) :=
  (Route.find? Endpoint.routes path).map fun (route, params) =>
    (route.target, Route.decodeParams? params)

def respond (s : Service τ σ) (now : τ) (m : Moment) (r : Request) :
    Service τ σ × Response × List Event :=
  let origins := s.settings.allowedOrigins
  if r.method = Method.options then
    (s, CrossOrigin.preflight origins r.headers ((locate? r.path).map (·.1.allow)), [])
  else
    match locate? r.path with
    | none => (s, CrossOrigin.share origins r.headers (.ofStatus 404), [])
    | some (e, params) =>
      let (s, response, events) := s.visit now m e params r
      (s, CrossOrigin.share origins r.headers response, events)

def idle (s : Service τ σ) (now : τ) (d : Duration) : Service τ σ × List Event :=
  let (limiter, events) := s.upkeep.duringPause now d s.limiter
  ({ s with limiter, upkeep := s.upkeep.afterPause d }, events)

/-- Stops the upkeep and gives up every window. -/
def shutdown (s : Service τ σ) : Service τ σ × List Event :=
  let (upkeep, stopped) := s.upkeep.stop
  ({ s with limiter := s.limiter.close, upkeep }, .shutdownBegun :: stopped ++ [.shutdownDone])

end Service

end AdmissionGate
