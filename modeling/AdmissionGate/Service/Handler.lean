import AdmissionGate.Admission.Gate
import AdmissionGate.Http.MediaType
import AdmissionGate.Service.Content
import AdmissionGate.Service.Endpoint
import AdmissionGate.Settings.Basic

/-!
What each endpoint answers. The service keeps no items: an item that is asked for is a sample, and an
item that is taken in is only shown.
-/

namespace AdmissionGate

/-- What is known when a request comes in, besides the request. -/
structure Moment where
  time : Timestamp
  /-- Seconds since the service was started. -/
  uptime : Nat
  /-- The name of an item that would be made now. -/
  freshId : String
  deriving DecidableEq, Repr

/-- Why a draft is not taken in. -/
inductive IntakeError where
  /-- The headers do not announce JSON. -/
  | unannounced
  | tooLarge
  /-- The body breaks off. -/
  | broken
  | malformed
  /-- The JSON is not that of a draft. -/
  | mismatch
  deriving DecidableEq, Repr

namespace IntakeError

def status : IntakeError → Nat
  | .unannounced => 415
  | .tooLarge => 413
  | .broken => 400
  | .malformed => 400
  | .mismatch => 422

def message : IntakeError → String
  | .unannounced => "Expected a request with a content type of JSON"
  | .tooLarge => "The request body is too large"
  | .broken => "The request body breaks off"
  | .malformed => "The request body is not JSON"
  | .mismatch => "The request body is not an item"

/-- The error of a body that cannot be read to its end. -/
def ofBodyError : BodyError → IntakeError
  | .overlong => .tooLarge
  | .broken _ => .broken

/-- The error of a text that is no draft. -/
def ofDraftError : DraftError → IntakeError
  | .malformed => .malformed
  | .mismatch => .mismatch

end IntakeError

/-- Whether headers announce a body of JSON. -/
def announcesJson (h : Headers) : Bool :=
  ((h.text? "content-type").bind MediaType.read?).any MediaType.isJson

/-- The draft that a request brings, of at most `max` octets. -/
def Draft.ofRequest (max : Nat) (r : Request) : Except IntakeError Draft :=
  if !announcesJson r.headers then .error .unannounced
  else do
    let bytes ← (r.readBody max).mapError .ofBodyError
    (Draft.parse bytes).mapError .ofDraftError

namespace Endpoint

variable {τ σ : Type} [Instant τ] [SharedStore σ τ]

/-- An answer of which nothing is reported. -/
def quietly (r : Response) : Served Empty := ⟨.ok r, []⟩

/-- The name and the version of the service. -/
def serviceName : String := "kb_gate"
def serviceVersion : String := "0.1.0"

def bannerJson (s : Settings) : Json :=
  ServiceInfo.json ⟨serviceName, serviceVersion, s.environmentName⟩

/-- The report on health. A service without its shared store is degraded. -/
def healthJson (s : Settings) (l : Limiter τ σ) (m : Moment) : Json :=
  let available := l.sharedAvailable?
  HealthReport.json
    { status := if available = some false then "degraded" else "healthy"
      version := serviceVersion
      environment := s.environmentName
      counterStore := l.backend
      counterStoreAvailable := available
      strict := s.screeningSettings.strict
      uptime := m.uptime
      timestamp := m.time }

def create (s : Settings) (m : Moment) (r : Request) : Served Empty :=
  match Draft.ofRequest s.maxBodyBytes r with
  | .error e => quietly (.text e.status e.message)
  | .ok d =>
    let item := KnowledgeItem.ofDraft d m.freshId m.time
    ⟨.ok (.json 201 item.json), [.itemAccepted item.id]⟩

/-- An answer made from the one parameter of a path, unless it is no text. -/
def ofParam (params : Option (List (String × String))) (answer : String → Json) : Response :=
  match params with
  | some ((_, value) :: _) => .json 200 (answer value)
  | _ => .text 400 "The path is not text"

/-- What an endpoint makes of a request that it takes. `params` are the parameters of the path, if
all of them are texts. -/
def take (e : Endpoint) (s : Settings) (l : Limiter τ σ) (m : Moment)
    (params : Option (List (String × String))) (r : Request) : Served Empty :=
  match e with
  | .banner => quietly (.json 200 (bannerJson s))
  | .health => quietly (.json 200 (healthJson s l m))
  | .readiness => quietly (.ofStatus 200)
  | .items => create s m r
  | .item => quietly (ofParam params fun id => (KnowledgeItem.sample id m.time).json)
  | .category => quietly (ofParam params fun slug => (ContentCategory.ofSlug slug).json)

/-- What an endpoint makes of a request. -/
def answer (e : Endpoint) (s : Settings) (l : Limiter τ σ) (m : Moment)
    (params : Option (List (String × String))) (r : Request) : Served Empty :=
  if e.methods.contains r.method then e.take s l m params r else quietly (.ofStatus 405)

/-- The answer of an endpoint as it leaves the service: the methods are listed if the one of the
request was not among them, and the body is left out where the method asks for none. -/
def outgoing (e : Endpoint) (m : Method) (r : Response) : Response :=
  if e.methods.contains m then r.outgoing m
  else { r with headers := r.headers.setText "allow" e.allow }.outgoing m

end Endpoint

end AdmissionGate
