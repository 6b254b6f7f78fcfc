import AdmissionGate.Proofs.Admission.Outcome
import AdmissionGate.Proofs.Http.Header
import AdmissionGate.Proofs.Screening.Grounds

/-!
# What the gate adds to a response

A response that leaves the gate carries the marks of the stages that applied to its request: three
headers for the quota, and four for the screen. A response of the service behind the gate keeps
everything else that it has (`Decorated`). A response of the gate's own has no headers but the marks
and those of a problem.

* `Response.marked_eq`: marking a response is setting the headers of its marks.
* `Gate.handle_response`: the response for each of the four outcomes.
-/

namespace AdmissionGate

open Text (encode)

/-- The headers that tell of a quota. -/
def Decision.marks (d : Decision) : List (String × String) :=
  [("x-ratelimit-limit", digitsOf d.limit), ("x-ratelimit-remaining", digitsOf d.remaining),
    ("x-ratelimit-reset", digitsOf d.resetEpoch)]

/-- The headers that tell a client without quota when to come back. -/
def Decision.denialMarks (d : Decision) : List (String × String) :=
  [("retry-after", digitsOf d.retryAfter), ("x-ratelimit-limit", digitsOf d.limit),
    ("x-ratelimit-remaining", "0"), ("x-ratelimit-reset", digitsOf d.resetEpoch)]

/-- The headers that tell a browser how careful to be with what has passed the screen. -/
def screenMarks : List (String × String) :=
  [("x-content-type-options", "nosniff"), ("x-frame-options", "DENY"),
    ("x-xss-protection", "1; mode=block"), ("referrer-policy", "strict-origin-when-cross-origin")]

/-- The headers of the stages that applied to a request. -/
def marks (quota : Option Decision) (screened : Bool) : List (String × String) :=
  (quota.map Decision.marks).getD [] ++ if screened then screenMarks else []

/-- The fields of some headers with one text each. -/
def fieldsOf (headers : List (String × String)) : List (String × Text.Bytes) :=
  headers.map fun m => (m.1, encode m.2)

/-- No header is marked twice. -/
theorem nodup_marks (quota : Option Decision) (screened : Bool) :
    ((marks quota screened).map Prod.fst).Nodup := by
  cases quota <;> cases screened <;> simp [marks, Decision.marks, screenMarks]

theorem contentType_notMem_marks (quota : Option Decision) (screened : Bool) :
    "content-type" ∉ (marks quota screened).map Prod.fst := by
  cases quota <;> cases screened <;> simp [marks, Decision.marks, screenMarks]

/-- **Marking a response is setting its marks**, one after the other. -/
theorem Response.marked_eq (r : Response) (quota : Option Decision) (screened : Bool) :
    r.marked quota screened = { r with headers := r.headers.setAll (marks quota screened) } := by
  cases quota <;> cases screened <;> rfl

/-- A response with some marks: each of their names has the one value, whatever it had before, and
nothing else is changed. -/
structure Decorated (marks : List (String × String)) (before after : Response) : Prop where
  status : after.status = before.status
  body : after.body = before.body
  marked : ∀ m ∈ marks, after.headers.values m.1 = [encode m.2]
  others : after.headers.fields.filter (fun f => f.1 ∉ marks.map Prod.fst)
    = before.headers.fields.filter fun f => f.1 ∉ marks.map Prod.fst

/-- A marked response has all marks, and is otherwise as it was. -/
theorem decorated_marked (r : Response) (quota : Option Decision) (screened : Bool) :
    Decorated (marks quota screened) r (r.marked quota screened) := by
  rw [Response.marked_eq]
  refine ⟨rfl, rfl, fun m hm => ?_, ?_⟩
  · exact Headers.values_setAll (nodup_marks quota screened) hm
  · refine Headers.filter_fields_setAll (p := fun name => name ∉ (marks quota screened).map Prod.fst)
      fun m hm => ?_
    simpa using ⟨m.2, hm⟩

/-- Two values of the service's own give way to one. -/
example :
    ((⟨200, Headers.ofFields [("x-frame-options", encode "SAMEORIGIN"), ("vary", encode "origin"),
        ("x-frame-options", encode "ALLOW")], []⟩ : Response).marked none true).headers.fields
      = fieldsOf [("x-frame-options", "DENY"), ("vary", "origin"),
        ("x-content-type-options", "nosniff"), ("x-xss-protection", "1; mode=block"),
        ("referrer-policy", "strict-origin-when-cross-origin")] := by
  decide +kernel

/-- A problem has one header, and others are added to it. -/
theorem fields_setAll_json (status : Nat) (body : Json) {headers : List (String × String)}
    (hnodup : (headers.map Prod.fst).Nodup) (hnew : "content-type" ∉ headers.map Prod.fst) :
    ((Response.json status body).headers.setAll headers).fields
      = fieldsOf (("content-type", "application/json") :: headers) := by
  refine Headers.fields_setAll_of_new hnodup fun m hm hkey => ?_
  have hname : m.1 = "content-type" := List.mem_singleton.mp hkey
  exact hnew (hname ▸ List.mem_map_of_mem hm)

/-- The headers of a denial, in order. -/
theorem fields_denied (d : Decision) (denial : Denial) :
    (d.refusal denial).response.headers.fields
      = fieldsOf (("content-type", "application/json") :: d.denialMarks) := by
  show ((Response.json _ _).headers.setAll d.denialMarks).fields = _
  exact fields_setAll_json _ _ (by simp [Decision.denialMarks]) (by simp [Decision.denialMarks])

namespace Gate

variable {τ σ : Type} [Instant τ] [SharedStore σ τ]

section Response

variable {g : Gate} {l : Limiter τ σ} {now : τ} {r : Request} {meanwhile : Limiter.Change τ σ}

/-- The response that follows from a ruling, given the answer of the service. -/
def responseTo (inner : Response) : Ruling → Response
  | .bypassed => inner
  | .denied d denial => (d.refusal denial).response
  | .refused quota refusal => refusal.response.marked quota true
  | .admitted quota screened _ => inner.marked quota screened

/-- What leaves the gate is what the ruling comes to. -/
theorem result_handle (ε : Type) (g : Gate) (l : Limiter τ σ) (now : τ) (r : Request)
    (serve : Limiter τ σ → Request → Response × List Event) (meanwhile : Limiter.Change τ σ) :
    ((g.handle l now r (recorded ε serve) meanwhile).run []).1.2.result
      = .ok (responseTo (serve (g.rule l now r meanwhile).1 r).1
          (g.rule l now r meanwhile).2.1) := by
  have hpassed := g.rebuilt_rule l now r meanwhile
  unfold handle
  generalize g.rule l now r meanwhile = ruled at hpassed
  obtain ⟨l', ruling, events⟩ := ruled
  cases ruling with
  | bypassed => rfl
  | denied d denial => rfl
  | refused quota refusal => rfl
  | admitted quota screened taken =>
    show Except.ok ((serve l' (r.rebuilt taken)).1.marked quota screened) = _
    rw [hpassed quota screened taken rfl]
    rfl

/-- The outcome of the ruling is counted. -/
theorem counted_handle (ε : Type) (g : Gate) (l : Limiter τ σ) (now : τ) (r : Request)
    (serve : Limiter τ σ → Request → Response × List Event) (meanwhile : Limiter.Change τ σ) :
    .outcomeCounted (g.rule l now r meanwhile).2.1.outcome
      ∈ ((g.handle l now r (recorded ε serve) meanwhile).run []).1.2.events := by
  unfold handle
  generalize g.rule l now r meanwhile = ruled
  obtain ⟨l', ruling, events⟩ := ruled
  cases ruling with
  | bypassed => exact List.mem_append_right _ (List.mem_cons_self ..)
  | denied d denial => exact List.mem_append_right _ (List.mem_cons_self ..)
  | refused quota refusal => exact List.mem_append_right _ (List.mem_cons_self ..)
  | admitted quota screened taken =>
    exact List.mem_append_right _ (List.mem_append_right _ (List.mem_singleton_self _))

/-- The quota that a ruling goes by. -/
theorem quota_meter :
    (g.meter l now r meanwhile).2.1 = if g.settings.meters r.path then
      some (l.requestQuota now (r.identifiers g.settings.identity) meanwhile).2.1 else none := by
  unfold meter
  split <;> rfl

/-- What becomes of a response of the service. -/
theorem Ruled.servedResponse {ruled : Limiter τ σ × Ruling × List Event}
    (h : Ruled g l now r meanwhile ruled) (inner : Response) :
    (ruled.2.1.outcome = .bypassed → responseTo inner ruled.2.1 = inner) ∧
      (ruled.2.1.outcome = .admitted →
        Decorated (marks (g.meter l now r meanwhile).2.1 (g.settings.screens r.path)) inner
          (responseTo inner ruled.2.1)) := by
  cases h with
  | bypassed hmeters hscreens => exact ⟨fun _ => rfl, nofun⟩
  | denied hdenies hdenial => exact ⟨nofun, nofun⟩
  | refused hdenies hscreens hrefusal => exact ⟨nofun, nofun⟩
  | admitted hdenies happlies htaken => exact ⟨nofun, fun _ => decorated_marked inner _ _⟩

/-- The responses of the gate's own. -/
theorem Ruled.ownResponse {ruled : Limiter τ σ × Ruling × List Event}
    (h : Ruled g l now r meanwhile ruled) (inner : Response) :
    (ruled.2.1.outcome = .rejected → ∃ refusal, (g.inspect r).2 = .error refusal ∧
        (responseTo inner ruled.2.1).status = refusal.status ∧
        (responseTo inner ruled.2.1).headers.fields
          = fieldsOf (("content-type", "application/json")
            :: marks (g.meter l now r meanwhile).2.1 true)) ∧
      (ruled.2.1.outcome = .rateLimited → ∃ d, (g.meter l now r meanwhile).2.1 = some d ∧
        (responseTo inner ruled.2.1).status = 429 ∧
        (responseTo inner ruled.2.1).headers.fields
          = fieldsOf (("content-type", "application/json") :: d.denialMarks)) := by
  cases h with
  | bypassed hmeters hscreens => exact ⟨nofun, nofun⟩
  | admitted hdenies happlies htaken => exact ⟨nofun, nofun⟩
  | refused hdenies hscreens hrefusal =>
    refine ⟨fun _ => ⟨_, hrefusal, ?_⟩, nofun⟩
    -- what is refused by the screen says nothing of quota itself
    have hproblem := (g.grounds_inspect r hrefusal).response
    rw [responseTo, hproblem, Response.marked_eq]
    exact ⟨rfl, fields_setAll_json _ _ (nodup_marks _ _) (contentType_notMem_marks _ _)⟩
  | denied hdenies hdenial =>
    refine ⟨nofun, fun _ => ⟨(g.asked l now r meanwhile).2.1, ?_, rfl, ?_⟩⟩
    · rw [meter_of_meters g l now r meanwhile hdenies.1]
    · exact fields_denied _ _

end Response

/-- **What leaves the gate.** An outcome is counted for every request, and the response is that of the
outcome. The response to a request that is bypassed is that of the service. The response to one that
is admitted is that of the service, with the marks of the stages that applied, and nothing else
changed. A request that is rejected gets the status of the refusal, and besides the header of a
problem the marks of the screen, and those of the quota if that was asked for. A request that is
denied gets the status 429, the time to wait and the quota, of which nothing remains, and no marks of
the screen. -/
theorem handle_response (ε : Type) (g : Gate) (l : Limiter τ σ) (now : τ) (r : Request)
    (serve : Limiter τ σ → Request → Response × List Event) (meanwhile : Limiter.Change τ σ) :
    let ruled := g.rule l now r meanwhile
    let quota := if g.settings.meters r.path then
      some (l.requestQuota now (r.identifiers g.settings.identity) meanwhile).2.1 else none
    let inner := (serve ruled.1 r).1
    let handled := ((g.handle l now r (recorded ε serve) meanwhile).run []).1.2
    .outcomeCounted ruled.2.1.outcome ∈ handled.events ∧
    ∃ response : Response, handled.result = .ok response ∧
      (ruled.2.1.outcome = .bypassed → response = inner) ∧
      (ruled.2.1.outcome = .admitted →
        Decorated (marks quota (g.settings.screens r.path)) inner response) ∧
      (ruled.2.1.outcome = .rejected → ∃ refusal, (g.inspect r).2 = .error refusal ∧
        response.status = refusal.status ∧
        response.headers.fields
          = fieldsOf (("content-type", "application/json") :: marks quota true)) ∧
      (ruled.2.1.outcome = .rateLimited → ∃ d, quota = some d ∧ response.status = 429 ∧
        response.headers.fields
          = fieldsOf (("content-type", "application/json") :: d.denialMarks)) := by
  intro ruled quota inner handled
  have hruled : Ruled g l now r meanwhile ruled := ruled_rule g l now r meanwhile
  have hquota : quota = (g.meter l now r meanwhile).2.1 := quota_meter.symm
  rw [hquota]
  refine ⟨counted_handle ε g l now r serve meanwhile, responseTo inner ruled.2.1,
    result_handle ε g l now r serve meanwhile, ?_⟩
  obtain ⟨hbypassed, hadmitted⟩ := hruled.servedResponse inner
  obtain ⟨hrejected, hlimited⟩ := hruled.ownResponse inner
  exact ⟨hbypassed, hadmitted, hrejected, hlimited⟩

end Gate

end AdmissionGate
