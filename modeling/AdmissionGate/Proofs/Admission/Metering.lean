import AdmissionGate.Proofs.Admission.Outcome

/-!
# What a request costs

The gate asks for quota before it looks at a request, and asks for it once. What it asks for is told by
the method, the path, the peer and the first values of three headers (`Request.CountsAs`); everything
else of a request, the screen and the service behind the gate have no part in it.

* `Request.CountsAs.identifiers`: who a request counts against.
* `Gate.limiter_quota_rule`: a ruling leaves the limiter as one request for quota does, or as it was.
* `Gate.handle_cost`: two requests that count as the same cost the same, whatever becomes of them.
-/

namespace AdmissionGate

/-! ## Who a request counts against -/

/-- The headers that tell who a request counts against. -/
def identityHeaders : List String := ["x-forwarded-for", "x-real-ip", "authorization"]

/-- Two requests that count as the same. Of a header only its first value matters, and it may be
missing. -/
structure Request.CountsAs (r r' : Request) : Prop where
  method : r'.method = r.method
  path : r'.path = r.path
  peer : r'.peer = r.peer
  first : ∀ name ∈ identityHeaders, r'.headers.first? name = r.headers.first? name

namespace Request.CountsAs

variable {r r' : Request} (h : r.CountsAs r')

include h

theorem header? {name : String} (hname : name ∈ identityHeaders) :
    r'.header? name = r.header? name := by
  rw [Request.header?, Request.header?, Headers.text?, Headers.text?, h.first name hname]

/-- The address of the client does not depend on the other headers. -/
theorem clientAddress : r'.clientAddress = r.clientAddress := by
  have hforwarded : r'.forwardedFor? = r.forwardedFor? := by
    rw [forwardedFor?, forwardedFor?, h.header? (by simp [identityHeaders])]
  have hreal : r'.realIp? = r.realIp? := by
    rw [realIp?, realIp?, h.header? (by simp [identityHeaders])]
  rw [Request.clientAddress, Request.clientAddress, hforwarded, hreal, h.peer]

theorem userHash? : r'.userHash? = r.userHash? := by
  rw [Request.userHash?, Request.userHash?, h.header? (by simp [identityHeaders])]

/-- **Requests that count alike have the same identifiers.** -/
theorem identifiers (s : IdentitySettings) : r'.identifiers s = r.identifiers s := by
  rw [Request.identifiers, Request.identifiers, h.clientAddress, h.userHash?, h.method, h.path]

end Request.CountsAs

/-- Settings under which the same requests cost quota, counted in the same dimensions. -/
structure AdmissionSettings.MetersAs (s s' : AdmissionSettings) : Prop where
  rateLimiting : s'.rateLimiting = s.rateLimiting
  freePaths : s'.freePaths = s.freePaths
  identity : s'.identity = s.identity

/-- The same requests cost quota under both settings. -/
theorem AdmissionSettings.MetersAs.meters {s s' : AdmissionSettings} (h : s.MetersAs s')
    (path : String) : s'.meters path = s.meters path := by
  rw [AdmissionSettings.meters, AdmissionSettings.meters, isFree, isFree, h.rateLimiting,
    h.freePaths]

/-! ## What a ruling costs -/

/-- The decision on the quota that was asked for. -/
def Ruling.quota? : Ruling → Option Decision
  | .bypassed => none
  | .denied quota _ => some quota
  | .refused quota _ => quota
  | .admitted quota _ _ => quota

namespace Gate

variable {τ σ : Type} [Instant τ] [SharedStore σ τ]

section Rule

variable (g : Gate) (l : Limiter τ σ) (now : τ) (r : Request) (meanwhile : Limiter.Change τ σ)

/-- Nothing but the request for quota changes the limiter, and its decision is the one that the ruling
goes by. -/
theorem limiter_quota_rule :
    (g.rule l now r meanwhile).1 = (g.meter l now r meanwhile).1 ∧
      (g.rule l now r meanwhile).2.1.quota? = (g.meter l now r meanwhile).2.1 := by
  have hruled := ruled_rule g l now r meanwhile
  generalize g.rule l now r meanwhile = ruled at hruled
  cases hruled with
  | bypassed hmeters hscreens =>
    rw [meter_of_free g l now r meanwhile hmeters]
    exact ⟨rfl, rfl⟩
  | denied hdenies hdenial =>
    rw [meter_of_meters g l now r meanwhile hdenies.1]
    exact ⟨rfl, rfl⟩
  | refused hdenies hscreens hrefusal => exact ⟨rfl, rfl⟩
  | admitted hdenies happlies htaken => exact ⟨rfl, rfl⟩

variable {g r}

/-- The request for quota does not depend on anything else. -/
theorem meter_congr {g' : Gate} {r' : Request} (hg : g.settings.MetersAs g'.settings)
    (hr : r.CountsAs r') : g'.meter l now r' meanwhile = g.meter l now r meanwhile := by
  rw [meter, meter, hr.path, hg.meters, hg.identity, hr.identifiers]

end Rule

/-! ## What a request costs -/

/-- Whatever comes of a computation, it leaves a limiter behind. -/
def Leaves {m : Type → Type} [Functor m] {α : Type} (after : Limiter τ σ)
    (x : m (Limiter τ σ × α)) : Prop :=
  ∃ rest : m α, x = (after, ·) <$> rest

/-- The limiter is left as the ruling leaves it, whatever the service does. -/
theorem leaves_handle {m : Type → Type} [Monad m] [LawfulMonad m] {ε : Type} (g : Gate)
    (l : Limiter τ σ) (now : τ) (r : Request) (next : Limiter τ σ → Request → m (Served ε))
    (meanwhile : Limiter.Change τ σ) :
    Leaves (g.rule l now r meanwhile).1 (g.handle l now r next meanwhile) := by
  unfold handle
  generalize g.rule l now r meanwhile = ruled
  obtain ⟨after, ruling, events⟩ := ruled
  -- the service may be called or not, and may fail: the limiter is the one of the ruling
  cases ruling with
  | bypassed =>
    refine ⟨(fun s => ⟨s.result, events ++ .outcomeCounted .bypassed :: s.events⟩) <$> next after r,
      ?_⟩
    simp only [map_eq_pure_bind, bind_assoc, pure_bind]
  | denied d denial =>
    refine ⟨pure ⟨.ok (d.refusal denial).response, events ++ reportDenial r d denial⟩, ?_⟩
    simp only [map_pure]
  | refused quota refusal =>
    refine ⟨pure ⟨.ok (refusal.response.marked quota true), events ++ g.reportRefusal r refusal⟩, ?_⟩
    simp only [map_pure]
  | admitted quota screened taken =>
    refine ⟨(fun s => ⟨(release quota screened s).result,
      events ++ (release quota screened s).events⟩) <$> next after (r.rebuilt taken), ?_⟩
    simp only [map_eq_pure_bind, bind_assoc, pure_bind]

/-- **What a request costs does not depend on what becomes of it.** If two requests count as the same,
and quota is asked for alike, the limiter is left in the same state after either, with the same
decision: the state and the decision of one request for quota, if their path calls for it, and
otherwise the state as it was. So a request that is refused for its headers, its query, its parameters
or its body is counted, and none is counted twice. -/
theorem handle_cost {m m' : Type → Type} [Monad m] [LawfulMonad m] [Monad m'] [LawfulMonad m']
    {ε ε' : Type} (l : Limiter τ σ) (now : τ) (meanwhile : Limiter.Change τ σ) {g g' : Gate}
    {r r' : Request} (hg : g.settings.MetersAs g'.settings) (hr : r.CountsAs r')
    (next : Limiter τ σ → Request → m (Served ε)) (next' : Limiter τ σ → Request → m' (Served ε')) :
    let asked := l.requestQuota now (r.identifiers g.settings.identity) meanwhile
    let cost := if g.settings.meters r.path then (asked.1, some asked.2.1) else (l, none)
    (Leaves cost.1 (g.handle l now r next meanwhile) ∧
        (g.rule l now r meanwhile).2.1.quota? = cost.2) ∧
      Leaves cost.1 (g'.handle l now r' next' meanwhile) ∧
        (g'.rule l now r' meanwhile).2.1.quota? = cost.2 := by
  intro asked cost
  have hmeter : (g.meter l now r meanwhile).1 = cost.1 ∧ (g.meter l now r meanwhile).2.1 = cost.2 := by
    unfold meter
    cases hmeters : g.settings.meters r.path with
    | true => simp only [cost, hmeters, if_true]; exact ⟨rfl, rfl⟩
    | false => simp [cost, hmeters]
  -- both requests ask for the same quota, and each ruling goes by what its own request comes to
  have hsame := meter_congr l now meanwhile hg hr
  obtain ⟨hlimiter, hquota⟩ := limiter_quota_rule g l now r meanwhile
  obtain ⟨hlimiter', hquota'⟩ := limiter_quota_rule g' l now r' meanwhile
  rw [hsame] at hlimiter' hquota'
  refine ⟨⟨?_, hquota.trans hmeter.2⟩, ?_, hquota'.trans hmeter.2⟩
  · rw [← hmeter.1, ← hlimiter]
    exact leaves_handle g l now r next meanwhile
  · rw [← hmeter.1, ← hlimiter']
    exact leaves_handle g' l now r' next' meanwhile

/-- A request that passes. -/
def plainPost : Request :=
  { Request.ofPathAndQuery .post "/items" with
    headers := Headers.ofFields [("x-forwarded-for", Text.encode "9.9.9.9")] }

/-- A request of the same client that tries to pass for another's, and that is screened out. -/
def hostilePost : Request :=
  { Request.ofPathAndQuery .post "/items?q=1;drop" with
    headers := Headers.ofFields [("cookie", Text.encode "../"), ("x-forwarded-for", Text.encode "9.9.9.9"),
      ("x-forwarded-for", Text.encode "1.1.1.1"), ("content-type", Text.encode "application/json")]
    body := Text.encode "[" }

/-- A gate that refuses what is suspicious. -/
def strictGate : Gate := ⟨.standard, { ScreeningSettings.standard with strict := true }⟩

/-- A service that fails on every request. -/
def failing (_ : Limiter ℚ (ScriptedStore ℚ)) (_ : Request) : Id (Served Unit) := ⟨.error (), []⟩

/-- A request that is refused costs as much as one that is not. -/
theorem handle_cost_hostile :
    let asked := spent.requestQuota 3 [.ip "9.9.9.9"] sweepMeanwhile
    AdmissionSettings.standard.MetersAs strictGate.settings ∧ plainPost.CountsAs hostilePost ∧
      (strictGate.rule spent 3 hostilePost sweepMeanwhile).2.1.outcome = .rejected ∧
        (Leaves asked.1 ((⟨.standard, .standard⟩ : Gate).handle spent 3 plainPost
            (recorded Unit fun _ _ => (.ofStatus 201, [])) sweepMeanwhile) ∧
          Leaves asked.1 (strictGate.handle spent 3 hostilePost failing sweepMeanwhile)) ∧
          (strictGate.rule spent 3 hostilePost sweepMeanwhile).2.1.quota? = some asked.2.1 := by
  intro asked
  have hg : (⟨.standard, .standard⟩ : Gate).settings.MetersAs strictGate.settings := ⟨rfl, rfl, rfl⟩
  have hr : plainPost.CountsAs hostilePost := ⟨rfl, by decide +kernel, rfl, by decide +kernel⟩
  obtain ⟨⟨hplain, -⟩, hhostile, hquota⟩ :=
    handle_cost spent 3 sweepMeanwhile hg hr
      (recorded Unit fun _ _ => (.ofStatus 201, [])) failing
  have hids : plainPost.identifiers .standard = [.ip "9.9.9.9"] := by decide +kernel
  have hmeters : AdmissionSettings.standard.meters plainPost.path = true := by decide +kernel
  simp only [hmeters, if_true] at hplain hhostile hquota
  rw [show AdmissionSettings.standard.identity = .standard from rfl, hids] at hplain hhostile hquota
  exact ⟨hg, hr, by decide +kernel, ⟨hplain, hhostile⟩, hquota⟩

end Gate

end AdmissionGate
