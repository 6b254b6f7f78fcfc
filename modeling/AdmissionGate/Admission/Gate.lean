import AdmissionGate.Admission.Settings
import AdmissionGate.Decimal.Natural
import AdmissionGate.Quota.Limiter
import AdmissionGate.Screening.Screen

/-!
The gate in front of a service. First it asks for quota, then it screens, each if the path of the
request calls for it. A request that gets through both is passed on to the service, and the answer is
marked with its quota and with security headers; any other is turned away. `Gate.rule` says what
becomes of a request, and `Gate.handle` carries it out. To be screened, a request is taken apart and its
body is read; to be passed on, it is put together again from its parts and what was read.
-/

namespace AdmissionGate

open Text (Bytes)

/-- A gate: which stages are on, and how closely requests are screened. -/
structure Gate where
  settings : AdmissionSettings
  screen : ScreeningSettings
  deriving DecidableEq, Repr

inductive Ruling where
  /-- No stage applies, and the request goes round the gate. -/
  | bypassed
  /-- A window has no room. -/
  | denied (quota : Decision) (denial : Denial)
  /-- Screening refuses the request. The quota is known if it was asked for. -/
  | refused (quota : Option Decision) (refusal : Refusal)
  /-- The request is passed on, with the body that was taken in, if one was. -/
  | admitted (quota : Option Decision) (screened : Bool) (taken : Option Bytes)
  deriving DecidableEq, Repr

/-- How a request with a ruling fares. -/
def Ruling.outcome : Ruling → Outcome
  | .bypassed => .bypassed
  | .denied _ _ => .rateLimited
  | .refused _ _ => .rejected
  | .admitted _ _ _ => .admitted

/-- What a service makes of a request, and what it reports. The service may fail with an `ε`. -/
structure Served (ε : Type) where
  result : Except ε Response
  events : List Event

/-- A response with the headers of the stages that applied. -/
def Response.marked (r : Response) (quota : Option Decision) (screened : Bool) : Response :=
  let headers :=
    match quota with
    | none => r.headers
    | some d => withQuota r.headers d.limit d.remaining d.resetEpoch
  { r with headers := if screened then withSecurity headers else headers }

/-- Who and what a request is, for reports. -/
def Request.subject (r : Request) : Subject :=
  ⟨r.path, r.method.name, r.clientAddress⟩

/-- A request as it is screened: with the body that was taken in, or without one. -/
def Request.viewed (r : Request) (taken : Option Bytes) : Request :=
  { r with body := taken.getD [], bodyFault := none }

/-- A request as it is passed on: with its body as it came in, or with the body that was taken in. -/
def Request.rebuilt (r : Request) : Option Bytes → Request
  | none => r
  | some bytes => { r with body := bytes, bodyFault := none }

namespace Gate

variable {τ σ : Type} [Instant τ] [SharedStore σ τ]

/-! ## Rulings -/

/-- Asks for quota if the path of a request calls for it. -/
def meter (g : Gate) (l : Limiter τ σ) (now : τ) (r : Request)
    (meanwhile : Limiter.Change τ σ) : Limiter τ σ × Option Decision × List Event :=
  if g.settings.meters r.path then
    let (l, d, events) := l.requestQuota now (r.identifiers g.settings.identity) meanwhile
    (l, some d, events)
  else (l, none, [])

/-- The length of the body that the headers declare, if it is a number. -/
def declaredLength? (h : Headers) : Option Nat :=
  (h.text? "content-length").bind fun v => (Decimal.read Decimal.max64 v).toOption

/-- Reads the whole body of a request. A declared length beyond the limit is believed. A body that
cannot be read to its end is refused as one that is too large, whatever the reason. -/
def bufferBody (max : Nat) (r : Request) : List Event × Except Refusal Bytes :=
  if (declaredLength? r.headers).any (max < ·) then ([], .error .bodyTooLarge)
  else
    match r.readBody max with
    | .error e => ([.bodyUnread e], .error .bodyTooLarge)
    | .ok bytes => ([], .ok bytes)

/-- Takes in the body of a request, if it is of a kind that is looked into. -/
def takeBody (g : Gate) (r : Request) : List Event × Except Refusal (Option Bytes) :=
  match BodyKind.of? r.method r.headers with
  | none => ([], .ok none)
  | some _ =>
    match bufferBody g.screen.maxBodyBytes r with
    | (events, .error refusal) => (events, .error refusal)
    | (events, .ok bytes) => (events, .ok (some bytes))

/-- Takes in the body of a request, and screens the request. What was taken in is kept. -/
def inspect (g : Gate) (r : Request) : List Event × Except Refusal (Option Bytes) :=
  match g.takeBody r with
  | (events, .error refusal) => (events, .error refusal)
  | (events, .ok taken) =>
    let v := Screening.request g.screen (r.viewed taken)
    let events := events ++ Screening.report (r.viewed taken) v.findings
    match v.refusal? with
    | some refusal => (events, .error refusal)
    | none => (events, .ok taken)

/-- The ruling on a request that was not denied. -/
def ruleByScreen (g : Gate) (quota : Option Decision) (r : Request) : Ruling × List Event :=
  if g.settings.screens r.path then
    match g.inspect r with
    | (events, .error refusal) => (.refused quota refusal, events)
    | (events, .ok taken) => (.admitted quota true taken, events)
  else (.admitted quota false none, [])

/-- The ruling on a request at `now`, with what is reported on the way to it. -/
def rule (g : Gate) (l : Limiter τ σ) (now : τ) (r : Request)
    (meanwhile : Limiter.Change τ σ := Limiter.unchanged) : Limiter τ σ × Ruling × List Event :=
  if !g.settings.meters r.path && !g.settings.screens r.path then (l, .bypassed, [])
  else
    let (l, quota, asked) := g.meter l now r meanwhile
    match quota, quota.bind (·.denied) with
    | some d, some denial => (l, .denied d denial, asked)
    | _, _ =>
      let (ruling, seen) := g.ruleByScreen quota r
      (l, ruling, asked ++ seen)

/-! ## What follows from a ruling -/

/-- What is reported of a denied request. -/
def reportDenial (r : Request) (d : Decision) (denial : Denial) : List Event :=
  [.outcomeCounted .rateLimited, .denialCounted denial.tier denial.identifier.dimension,
    .denied r.subject (d.refusal denial).kind denial.tier denial.identifier d.retryAfter]

/-- What is reported of a request that screening refuses. -/
def reportRefusal (g : Gate) (r : Request) (refusal : Refusal) : List Event :=
  [.outcomeCounted .rejected, .rejectionCounted refusal.kind,
    .refused r.subject g.screen.strict refusal]

/-- What a service made of a request that was admitted, as it leaves the gate. A request that the
service fails on is not counted. -/
def release {ε : Type} (quota : Option Decision) (screened : Bool) (s : Served ε) : Served ε :=
  match s.result with
  | .error e => ⟨.error e, s.events⟩
  | .ok response =>
    ⟨.ok (response.marked quota screened), s.events ++ [.outcomeCounted .admitted]⟩

/-- Handles a request at `now`, with `next` as the service behind the gate. The service finds the
limiter as the ruling left it. A request that goes round the gate is not taken apart. -/
def handle {m : Type → Type} [Monad m] {ε : Type} (g : Gate) (l : Limiter τ σ) (now : τ)
    (r : Request) (next : Limiter τ σ → Request → m (Served ε))
    (meanwhile : Limiter.Change τ σ := Limiter.unchanged) : m (Limiter τ σ × Served ε) := do
  let (l, ruling, events) := g.rule l now r meanwhile
  match ruling with
  | .bypassed =>
    let s ← next l r
    return (l, ⟨s.result, events ++ .outcomeCounted .bypassed :: s.events⟩)
  | .denied d denial =>
    return (l, ⟨.ok (d.refusal denial).response, events ++ reportDenial r d denial⟩)
  | .refused quota refusal =>
    return (l, ⟨.ok (refusal.response.marked quota true), events ++ g.reportRefusal r refusal⟩)
  | .admitted quota screened taken =>
    let s := release quota screened (← next l (r.rebuilt taken))
    return (l, ⟨s.result, events ++ s.events⟩)

end Gate

end AdmissionGate
