import AdmissionGate.Proofs.Admission.Body
import AdmissionGate.Proofs.Quota.Run
import AdmissionGate.Proofs.Report.Counter
import AdmissionGate.Proofs.Screening.Grounds
import AdmissionGate.Proofs.Time.Exact
import AdmissionGate.Shared.Scripted

/-!
# The outcome of a request

A request has one of four outcomes, and which one is settled by the path of the request, by the
decision on its quota and by the screen, in this order.

* `Limiter.allowed_requestQuota`, `Limiter.quiet_requestQuota`: a request for quota is denied exactly
  if a window is named that has no room, and reports neither outcomes nor findings.
* `Gate.ruled_rule`: the four rulings, each with the conditions under which it is given.
* `Gate.rebuilt_rule`: a ruling lets a request through as it came in.
* `Gate.handle_outcome`: what is counted, which requests reach the service behind the gate, and what
  is left untouched.
-/

namespace AdmissionGate

/-- The report of a suspicious value. -/
def Event.isFinding : Event → Bool
  | .suspicious .. => true
  | .findingCounted _ => true
  | _ => false

/-- Events without outcomes and findings. -/
def Quiet (events : List Event) : Prop :=
  ∀ e ∈ events, e.isFinding = false ∧ ∀ o, e ≠ .outcomeCounted o

theorem Quiet.nil : Quiet [] := nofun

theorem Quiet.append {es fs : List Event} (he : Quiet es) (hf : Quiet fs) : Quiet (es ++ fs) := by
  intro e hmem
  rcases List.mem_append.mp hmem with hmem | hmem
  · exact he e hmem
  · exact hf e hmem

/-- No outcome is among quiet events. -/
theorem Quiet.count {es : List Event} (h : Quiet es) (o : Outcome) :
    es.count (.outcomeCounted o) = 0 := by
  refine List.count_eq_zero.mpr fun hmem => ?_
  exact (h _ hmem).2 o rfl

variable {τ σ : Type} [Instant τ]

/-! ## Requests for quota -/

namespace Plan

/-- A denial names a window, and no decision comes with an outcome or a finding. -/
theorem ends_quiet (limits : Limits) (now : τ) (ids : List Identifier) :
    (ofIdentifiers limits now ids).Ends fun d events =>
      d.allowed = d.denied.isNone ∧ Quiet events := by
  refine ends_ofIdentifiers ?_ ?_ ids
  · exact fun _ _ _ => ⟨rfl, Quiet.nil⟩
  · intro tier i o
    refine ⟨rfl, fun e he => ?_⟩
    rw [List.mem_singleton.mp he]
    exact ⟨rfl, nofun⟩

end Plan

namespace Limiter

variable [SharedStore σ τ]

namespace Session

/-- A session that has reported neither outcomes nor findings, and will not while it waits. -/
structure IsQuiet (s : Session τ σ) : Prop where
  events : Quiet s.events
  meanwhile : ∀ l, Quiet (s.meanwhile l).2

omit [Instant τ] [SharedStore σ τ] in
theorem IsQuiet.report {s : Session τ σ} (h : s.IsQuiet) {events : List Event}
    (he : Quiet events) : (s.report events).IsQuiet :=
  ⟨h.events.append he, h.meanwhile⟩

omit [Instant τ] [SharedStore σ τ] in
theorem IsQuiet.wait {s : Session τ σ} (h : s.IsQuiet) : s.wait.IsQuiet :=
  ⟨h.events.append (h.meanwhile s.limiter), h.meanwhile⟩

omit [Instant τ] in
/-- The end of an outage counts no outcome. -/
theorem IsQuiet.recover {s : Session τ σ} (h : s.IsQuiet) (operation : StoreOperation) :
    (s.recover operation).IsQuiet := by
  refine ⟨h.events.append ?_, h.meanwhile⟩
  intro e he
  cases hdegraded : s.limiter.degraded <;> simp [hdegraded] at he <;>
    rcases he with rfl | rfl | rfl <;> exact ⟨rfl, nofun⟩

omit [Instant τ] [SharedStore σ τ] in
theorem IsQuiet.fallBack {s : Session τ σ} (h : s.IsQuiet) (operation : StoreOperation)
    (fault : StoreFault) : (s.fallBack operation fault).IsQuiet := by
  refine ⟨h.events.append ?_, h.meanwhile⟩
  intro e he
  cases hdegraded : s.limiter.degraded <;> simp [hdegraded] at he <;>
    rcases he with rfl | rfl | rfl | rfl <;> exact ⟨rfl, nofun⟩

omit [Instant τ] in
/-- **A call counts no outcome**, whichever store it goes to. -/
theorem IsQuiet.call {α : Type} {s : Session τ σ} (h : s.IsQuiet) (operation : StoreOperation)
    (shared : σ → σ × Reply α) (own : WindowStore τ → WindowStore τ × α) :
    (s.call operation shared own).1.IsQuiet := by
  -- the windows in memory report nothing, so it is enough to look at the shared call
  have hmemory : ∀ t : Session τ σ, t.IsQuiet → (t.inMemory own).1.IsQuiet :=
    fun t ht => ⟨ht.events, ht.meanwhile⟩
  have htry : (s.tryShared operation shared).1.IsQuiet := by
    unfold tryShared
    split
    · next store _ _ =>
      unfold ask
      have hasked : ∀ store',
          IsQuiet { s with limiter := { s.limiter with shared := some store' } } :=
        fun _ => ⟨h.events, h.meanwhile⟩
      rcases shared store with ⟨store', reply⟩
      cases reply with
      | answer a => exact (hasked store').recover operation
      | fault f => exact (hasked store').fallBack operation f
      | silence => exact (hasked store').wait.fallBack operation _
    · exact h
  unfold Session.call
  generalize s.tryShared operation shared = tried at htry
  obtain ⟨t, reply⟩ := tried
  cases reply with
  | some a => exact htry
  | none => exact hmemory t htry

/-- A plan counts no outcome if it counts none at its end. -/
theorem isQuiet_run {s : Session τ σ} (h : s.IsQuiet) {plan : Plan τ}
    (hplan : plan.Ends fun _ events => Quiet events) (now : τ) :
    (run now s plan).1.IsQuiet := by
  induction plan generalizing s with
  | done d events => exact h.report hplan
  | consume key limit next ih => exact ih _ (h.call _ _ _) (hplan _)
  | count key window next ih => exact ih _ (h.call _ _ _) (hplan _)

end Session

/-- A request is allowed if no window denies it. -/
theorem allowed_requestQuota (l : Limiter τ σ) (now : τ) (ids : List Identifier)
    (meanwhile : Change τ σ) :
    (l.requestQuota now ids meanwhile).2.1.allowed
      = (l.requestQuota now ids meanwhile).2.1.denied.isNone := by
  obtain ⟨_, h, -⟩ := Session.decision_run (Plan.ends_quiet l.limits now ids) now
    (⟨l, meanwhile, l.shared.isSome, []⟩ : Session τ σ)
  exact h

/-- Asking for quota counts no outcome. -/
theorem quiet_requestQuota (l : Limiter τ σ) (now : τ) (ids : List Identifier)
    {meanwhile : Change τ σ} (h : ∀ l, Quiet (meanwhile l).2) :
    Quiet (l.requestQuota now ids meanwhile).2.2 := by
  have hplan : (Plan.ofIdentifiers l.limits now ids).Ends fun _ events => Quiet events :=
    (Plan.ends_quiet l.limits now ids).mono fun _ _ hend => hend.2
  have hstart : (⟨l, meanwhile, l.shared.isSome, []⟩ : Session τ σ).IsQuiet := ⟨Quiet.nil, h⟩
  exact (Session.isQuiet_run hstart hplan now).events

end Limiter

namespace Gate

variable [SharedStore σ τ]

/-! ## Screening -/

theorem quiet_bufferBody (max : Nat) (r : Request) : Quiet (bufferBody max r).1 := by
  unfold bufferBody
  split
  · exact Quiet.nil
  · cases r.readBody max with
    | error e =>
      intro event hevent
      rw [List.mem_singleton.mp hevent]
      exact ⟨rfl, nofun⟩
    | ok bytes => exact Quiet.nil

theorem quiet_takeBody (g : Gate) (r : Request) : Quiet (g.takeBody r).1 := by
  unfold takeBody
  cases BodyKind.of? r.method r.headers with
  | none => exact Quiet.nil
  | some kind =>
    have hread := quiet_bufferBody g.screen.maxBodyBytes r
    generalize bufferBody g.screen.maxBodyBytes r = read at hread
    obtain ⟨events, _ | bytes⟩ := read <;> exact hread

/-- Findings are not outcomes. -/
theorem count_report (r : Request) (findings : List Finding) (o : Outcome) :
    (Screening.report r findings).count (.outcomeCounted o) = 0 := by
  refine List.count_eq_zero.mpr fun hmem => ?_
  obtain ⟨f, -, hf⟩ := List.mem_flatMap.mp hmem
  simp at hf

theorem count_inspect (g : Gate) (r : Request) (o : Outcome) :
    (g.inspect r).1.count (.outcomeCounted o) = 0 := by
  have htake := (g.quiet_takeBody r).count o
  unfold inspect
  generalize g.takeBody r = read at htake
  obtain ⟨events, _ | taken⟩ := read
  · exact htake
  · -- the findings are reported whether or not there is a refusal besides
    have hreport : (events ++ Screening.report (r.viewed taken)
        (Screening.request g.screen (r.viewed taken)).findings).count (.outcomeCounted o) = 0 := by
      rw [List.count_append, show events.count _ = 0 from htake, count_report]
    dsimp only
    cases (Screening.request g.screen (r.viewed taken)).refusal? <;> exact hreport

/-- A request does not get past the screen if it is looked into and its body cannot be read, or if the
screen refuses it. -/
theorem inspect_fails_iff (g : Gate) (r : Request) :
    (∃ e, (g.inspect r).2 = .error e) ↔
      ((BodyKind.of? r.method r.headers).isSome = true ∧ r.Unreadable g.screen.maxBodyBytes) ∨
        (Screening.request g.screen r).refusal?.isSome = true := by
  simp only [inspect_eq_error_iff, result_takeBody]
  cases hkind : BodyKind.of? r.method r.headers with
  | none => simp [Option.isSome_iff_exists]
  | some kind =>
    by_cases hread : r.Unreadable g.screen.maxBodyBytes <;> simp [hread, Option.isSome_iff_exists]

/-! ## Rulings -/

/-- The answer to the request for quota that a request leads to, if it is asked for. -/
def asked (g : Gate) (l : Limiter τ σ) (now : τ) (r : Request)
    (meanwhile : Limiter.Change τ σ) : Limiter τ σ × Decision × List Event :=
  l.requestQuota now (r.identifiers g.settings.identity) meanwhile

/-- Whether a request is denied for lack of quota. -/
def Denies (g : Gate) (l : Limiter τ σ) (now : τ) (r : Request)
    (meanwhile : Limiter.Change τ σ) : Prop :=
  g.settings.meters r.path = true ∧ (g.asked l now r meanwhile).2.1.allowed = false

/-- The rulings on a request, with the conditions under which they are given. -/
inductive Ruled (g : Gate) (l : Limiter τ σ) (now : τ) (r : Request)
    (meanwhile : Limiter.Change τ σ) : Limiter τ σ × Ruling × List Event → Prop where
  | bypassed (hmeters : g.settings.meters r.path = false)
      (hscreens : g.settings.screens r.path = false) :
      Ruled g l now r meanwhile (l, .bypassed, [])
  | denied (hdenies : g.Denies l now r meanwhile) {denial : Denial}
      (hdenial : (g.asked l now r meanwhile).2.1.denied = some denial) :
      Ruled g l now r meanwhile ((g.asked l now r meanwhile).1,
        .denied (g.asked l now r meanwhile).2.1 denial, (g.asked l now r meanwhile).2.2)
  | refused (hdenies : ¬ g.Denies l now r meanwhile) (hscreens : g.settings.screens r.path = true)
      {refusal : Refusal} (hrefusal : (g.inspect r).2 = .error refusal) :
      Ruled g l now r meanwhile ((g.meter l now r meanwhile).1,
        .refused (g.meter l now r meanwhile).2.1 refusal,
        (g.meter l now r meanwhile).2.2 ++ (g.inspect r).1)
  | admitted (hdenies : ¬ g.Denies l now r meanwhile)
      (happlies : g.settings.meters r.path = true ∨ g.settings.screens r.path = true)
      {taken : Option Text.Bytes}
      (htaken : if g.settings.screens r.path then (g.inspect r).2 = .ok taken else taken = none) :
      Ruled g l now r meanwhile ((g.meter l now r meanwhile).1,
        .admitted (g.meter l now r meanwhile).2.1 (g.settings.screens r.path) taken,
        (g.meter l now r meanwhile).2.2
          ++ if g.settings.screens r.path then (g.inspect r).1 else [])

section Rule

variable (g : Gate) (l : Limiter τ σ) (now : τ) (r : Request) (meanwhile : Limiter.Change τ σ)

/-- A request that costs quota asks the limiter. -/
theorem meter_of_meters (h : g.settings.meters r.path = true) :
    g.meter l now r meanwhile
      = ((g.asked l now r meanwhile).1, some (g.asked l now r meanwhile).2.1,
        (g.asked l now r meanwhile).2.2) := by
  simp only [meter, h, if_true]
  rfl

theorem meter_of_free (h : g.settings.meters r.path = false) :
    g.meter l now r meanwhile = (l, none, []) := by
  simp [meter, h]

theorem quiet_meter (h : ∀ l, Quiet (meanwhile l).2) : Quiet (g.meter l now r meanwhile).2.2 := by
  cases hmeters : g.settings.meters r.path with
  | true =>
    rw [meter_of_meters g l now r meanwhile hmeters]
    exact l.quiet_requestQuota now _ h
  | false =>
    rw [meter_of_free g l now r meanwhile hmeters]
    exact Quiet.nil

/-- What screening rules on a request that was not denied. -/
theorem ruled_ruleByScreen (hdenies : ¬ g.Denies l now r meanwhile)
    (happlies : g.settings.meters r.path = true ∨ g.settings.screens r.path = true) :
    Ruled g l now r meanwhile ((g.meter l now r meanwhile).1,
      (g.ruleByScreen (g.meter l now r meanwhile).2.1 r).1,
      (g.meter l now r meanwhile).2.2 ++ (g.ruleByScreen (g.meter l now r meanwhile).2.1 r).2) := by
  unfold ruleByScreen
  cases hscreens : g.settings.screens r.path with
  | false =>
    have htaken : if g.settings.screens r.path then (g.inspect r).2 = .ok none
        else (none : Option Text.Bytes) = none := by
      rw [hscreens]
      rfl
    have h := Ruled.admitted hdenies happlies htaken
    rw [hscreens] at h
    exact h
  | true =>
    cases hinspect : g.inspect r with
    | mk seen result =>
      have hseen : (g.inspect r).1 = seen := by rw [hinspect]
      cases result with
      | error refusal =>
        have hrefusal : (g.inspect r).2 = .error refusal := by rw [hinspect]
        have h := Ruled.refused hdenies hscreens hrefusal
        rw [hseen] at h
        exact h
      | ok taken =>
        have htaken : if g.settings.screens r.path then (g.inspect r).2 = .ok taken
            else taken = none := by
          rw [hscreens, hinspect]
          rfl
        have h := Ruled.admitted hdenies happlies htaken
        rw [hscreens, hseen] at h
        exact h

/-- **Every ruling is one of the four**, each with the reason for it. -/
theorem ruled_rule : Ruled g l now r meanwhile (g.rule l now r meanwhile) := by
  unfold rule
  cases hmeters : g.settings.meters r.path with
  | false =>
    have hdenies : ¬ g.Denies l now r meanwhile := fun h => by rw [h.1] at hmeters; cases hmeters
    cases hscreens : g.settings.screens r.path with
    | false => exact .bypassed hmeters hscreens
    | true =>
      have h := ruled_ruleByScreen g l now r meanwhile hdenies (Or.inr hscreens)
      rw [meter_of_free g l now r meanwhile hmeters] at h ⊢
      exact h
  | true =>
    have hallowed := l.allowed_requestQuota now (r.identifiers g.settings.identity) meanwhile
    rw [show l.requestQuota now (r.identifiers g.settings.identity) meanwhile
      = g.asked l now r meanwhile from rfl] at hallowed
    have hmeter := meter_of_meters g l now r meanwhile hmeters
    -- a decision is a denial exactly if it names a window
    cases hdenied : (g.asked l now r meanwhile).2.1.denied with
    | some denial =>
      rw [hdenied] at hallowed
      have hrule : (g.meter l now r meanwhile).2.1.bind (·.denied) = some denial := by
        rw [hmeter]
        exact hdenied
      simp only [hmeter, Option.bind_some, hdenied]
      exact .denied ⟨hmeters, hallowed⟩ hdenied
    | none =>
      rw [hdenied] at hallowed
      have hdenies : ¬ g.Denies l now r meanwhile := by
        rintro ⟨-, hfalse⟩
        rw [hallowed] at hfalse
        cases hfalse
      have h := ruled_ruleByScreen g l now r meanwhile hdenies (Or.inl hmeters)
      rw [hmeter] at h
      simp only [hmeter, Option.bind_some, hdenied]
      exact h

/-- The outcome of a ruling is that of the path, the quota and the screen, in this order. -/
theorem outcome_rule :
    ((g.rule l now r meanwhile).2.1.outcome = .bypassed ↔
        g.settings.meters r.path = false ∧ g.settings.screens r.path = false) ∧
      ((g.rule l now r meanwhile).2.1.outcome = .rateLimited ↔ g.Denies l now r meanwhile) ∧
      ((g.rule l now r meanwhile).2.1.outcome = .rejected ↔
        ¬ g.Denies l now r meanwhile ∧ g.settings.screens r.path = true ∧
          ∃ e, (g.inspect r).2 = .error e) := by
  have hruled := ruled_rule g l now r meanwhile
  generalize g.rule l now r meanwhile = ruled at hruled
  -- in each case the conditions of the ruling say which of the three hold
  cases hruled with
  | bypassed hmeters hscreens =>
    have hdenies : ¬ g.Denies l now r meanwhile := fun h => by simp [h.1] at hmeters
    simp [Ruling.outcome, hmeters, hscreens, hdenies]
  | denied hdenies hdenial => simp [Ruling.outcome, hdenies, hdenies.1]
  | refused hdenies hscreens hrefusal => simp [Ruling.outcome, hdenies, hscreens, hrefusal]
  | admitted hdenies happlies htaken =>
    have hneither : ¬ (g.settings.meters r.path = false ∧ g.settings.screens r.path = false) := by
      rintro ⟨hmeters, hscreens⟩
      simp [hmeters, hscreens] at happlies
    have hnone : ¬ (g.settings.screens r.path = true ∧ ∃ e, (g.inspect r).2 = .error e) := by
      rintro ⟨hscreens, e, he⟩
      rw [if_pos hscreens, he] at htaken
      cases htaken
    simp only [Ruling.outcome, reduceCtorEq, false_iff]
    exact ⟨hneither, hdenies, fun h => hnone h.2⟩

/-- A ruling lets a request through as it came in. -/
theorem rebuilt_rule (quota : Option Decision) (screened : Bool) (taken : Option Text.Bytes)
    (h : (g.rule l now r meanwhile).2.1 = .admitted quota screened taken) : r.rebuilt taken = r := by
  have hruled := ruled_rule g l now r meanwhile
  generalize g.rule l now r meanwhile = ruled at hruled h
  cases hruled with
  | bypassed hmeters hscreens => cases h
  | denied hdenies hdenial => cases h
  | refused hdenies hscreens hrefusal => cases h
  | admitted hdenies happlies htaken =>
    cases h
    split at htaken
    · exact rebuilt_of_inspect htaken
    · rw [htaken]
      rfl

/-- A request that costs no quota leaves the limiter as it is. -/
theorem limiter_rule (hfree : g.settings.meters r.path = false) :
    (g.rule l now r meanwhile).1 = l := by
  have hmeter := meter_of_free g l now r meanwhile hfree
  have hruled := ruled_rule g l now r meanwhile
  generalize g.rule l now r meanwhile = ruled at hruled
  cases hruled with
  | bypassed => rfl
  | denied hdenies => simp [hdenies.1] at hfree
  | refused => rw [hmeter]
  | admitted => rw [hmeter]

/-- A denied request is ruled on by the limiter alone. -/
theorem rule_of_denies (h : g.Denies l now r meanwhile) :
    ∃ denial, (g.asked l now r meanwhile).2.1.denied = some denial ∧
      g.rule l now r meanwhile = ((g.asked l now r meanwhile).1,
        .denied (g.asked l now r meanwhile).2.1 denial, (g.asked l now r meanwhile).2.2) := by
  have hruled := ruled_rule g l now r meanwhile
  generalize g.rule l now r meanwhile = ruled at hruled
  cases hruled with
  | bypassed hmeters hscreens => simp [h.1] at hmeters
  | denied hdenies hdenial => exact ⟨_, hdenial, rfl⟩
  | refused hdenies => exact absurd h hdenies
  | admitted hdenies => exact absurd h hdenies

/-- No outcome is counted on the way to a ruling. -/
theorem count_rule (h : ∀ l, Quiet (meanwhile l).2) (o : Outcome) :
    (g.rule l now r meanwhile).2.2.count (.outcomeCounted o) = 0 := by
  have hruled := ruled_rule g l now r meanwhile
  have hmeter := (g.quiet_meter l now r meanwhile h).count o
  have hseen := g.count_inspect r o
  generalize g.rule l now r meanwhile = ruled at hruled
  cases hruled with
  | bypassed hmeters hscreens => rfl
  | denied hdenies hdenial => exact (l.quiet_requestQuota now _ h).count o
  | refused hdenies hscreens hrefusal => simp only [List.count_append, hmeter, hseen]
  | admitted hdenies happlies htaken =>
    simp only [List.count_append, hmeter]
    split
    · simp only [hseen]
    · simp

end Rule

/-! ## Outcomes -/

/-- A service that never fails, with a record of the limiter and the request of each call. -/
def recorded (ε : Type) (serve : Limiter τ σ → Request → Response × List Event)
    (l : Limiter τ σ) (r : Request) : StateM (List (Limiter τ σ × Request)) (Served ε) := do
  modify (· ++ [(l, r)])
  return ⟨.ok (serve l r).1, (serve l r).2⟩

section Handle

variable (ε : Type) (g : Gate) (l : Limiter τ σ) (now : τ) (r : Request)
  (serve : Limiter τ σ → Request → Response × List Event) (meanwhile : Limiter.Change τ σ)

/-- The limiter and the response with its events, and the calls of the service. -/
def handled : (Limiter τ σ × Served ε) × List (Limiter τ σ × Request) :=
  (g.handle l now r (recorded ε serve) meanwhile).run []

/-- A service is called if the ruling lets the request through. It is given the request as it came in,
and finds the limiter as the ruling has left it. Nothing but the ruling changes the limiter. -/
theorem calls_handled :
    (handled ε g l now r serve meanwhile).1.1 = (g.rule l now r meanwhile).1 ∧
      (handled ε g l now r serve meanwhile).2
        = if (g.rule l now r meanwhile).2.1.outcome = .bypassed ∨
            (g.rule l now r meanwhile).2.1.outcome = .admitted
          then [((g.rule l now r meanwhile).1, r)] else [] := by
  have hpassed := g.rebuilt_rule l now r meanwhile
  unfold handled handle
  generalize g.rule l now r meanwhile = ruled at hpassed
  obtain ⟨l', ruling, events⟩ := ruled
  cases ruling with
  | bypassed => exact ⟨rfl, rfl⟩
  | denied d denial => exact ⟨rfl, rfl⟩
  | refused quota refusal => exact ⟨rfl, rfl⟩
  | admitted quota screened taken =>
    refine ⟨rfl, ?_⟩
    show [(l', r.rebuilt taken)] = [(l', r)]
    rw [hpassed quota screened taken rfl]

omit [Instant τ] [SharedStore σ τ] in
theorem count_cons_outcome (o o' : Outcome) (events : List Event) :
    (.outcomeCounted o' :: events).count (.outcomeCounted o)
      = (if o = o' then 1 else 0) + events.count (.outcomeCounted o) := by
  by_cases h : o = o'
  · subst h
    simp
    omega
  · have hne : Event.outcomeCounted o' ≠ .outcomeCounted o := fun heq => h (by cases heq; rfl)
    simp [h, List.count_cons_of_ne hne]

/-- Besides what is counted on the way to the ruling and by the service, the outcome of the ruling is
counted once. -/
theorem count_handled (o : Outcome) :
    (handled ε g l now r serve meanwhile).1.2.events.count (.outcomeCounted o)
      = (g.rule l now r meanwhile).2.2.count (.outcomeCounted o)
        + (if o = (g.rule l now r meanwhile).2.1.outcome then 1 else 0)
        + ((handled ε g l now r serve meanwhile).2.map fun c =>
            (serve c.1 c.2).2.count (.outcomeCounted o)).sum := by
  unfold handled handle
  generalize g.rule l now r meanwhile = ruled
  obtain ⟨l', ruling, events⟩ := ruled
  cases ruling with
  | bypassed =>
    show (events ++ .outcomeCounted .bypassed :: (serve l' r).2).count _
      = events.count _ + (if o = .bypassed then 1 else 0) + ((serve l' r).2.count _ + 0)
    rw [List.count_append, count_cons_outcome]
    omega
  | denied d denial =>
    show (events ++ reportDenial r d denial).count _
      = events.count _ + (if o = .rateLimited then 1 else 0) + 0
    rw [List.count_append, reportDenial, count_cons_outcome]
    simp
  | refused quota refusal =>
    show (events ++ g.reportRefusal r refusal).count _
      = events.count _ + (if o = .rejected then 1 else 0) + 0
    rw [List.count_append, reportRefusal, count_cons_outcome]
    simp
  | admitted quota screened taken =>
    show (events ++ ((serve l' (r.rebuilt taken)).2 ++ [Event.outcomeCounted .admitted])).count _
      = events.count _ + (if o = .admitted then 1 else 0)
        + ((serve l' (r.rebuilt taken)).2.count _ + 0)
    rw [List.count_append, List.count_append, count_cons_outcome, List.count_nil]
    omega

/-- A denial is reported without findings, and the screen has no part in it. -/
theorem handled_of_denied (hquiet : ∀ l, Quiet (meanwhile l).2)
    (h : g.Denies l now r meanwhile) :
    (∀ e ∈ (handled ε g l now r serve meanwhile).1.2.events, e.isFinding = false) ∧
      ∀ screen, handled ε { g with screen } l now r serve meanwhile
        = handled ε g l now r serve meanwhile := by
  have hasked := l.quiet_requestQuota now (r.identifiers g.settings.identity) hquiet
  obtain ⟨denial, hdenial, hrule⟩ := g.rule_of_denies l now r meanwhile h
  constructor
  · unfold handled handle
    rw [hrule]
    intro e he
    rcases List.mem_append.mp he with he | he
    · exact (hasked e he).1
    · simp only [reportDenial, List.mem_cons, List.not_mem_nil, or_false] at he
      rcases he with rfl | rfl | rfl <;> rfl
  · intro screen
    -- another screen asks for the same quota, and the decision on it is all that counts
    obtain ⟨denial', hdenial', hrule'⟩ :=
      ({ g with screen } : Gate).rule_of_denies l now r meanwhile h
    have hsame : denial' = denial := Option.some.inj (hdenial'.symm.trans hdenial)
    unfold handled handle
    rw [hrule, hrule', hsame]
    rfl

end Handle

/-- **What becomes of a request.** The gate counts one outcome, and counts it once; the rest of what is
counted comes from the service. The outcome is that of the path, the decision on the quota and the
screen, which also fails a request that is looked into and whose body cannot be read: a longer one is
announced than may be, more octets come in, or the connection fails. The service is called for requests
that are bypassed or admitted, once and for no others, and what it is given is the request as it came
in, although the body has been read. The screen has no part in a denial, and the limiter has none in a
request that costs no quota. -/
theorem handle_outcome (ε : Type) (g : Gate) (l : Limiter τ σ) (now : τ) (r : Request)
    (serve : Limiter τ σ → Request → Response × List Event) (meanwhile : Limiter.Change τ σ)
    (hquiet : ∀ l, Quiet (meanwhile l).2) :
    let denies := g.settings.meters r.path = true ∧
      (l.requestQuota now (r.identifiers g.settings.identity) meanwhile).2.1.allowed = false
    let fails :=
      ((BodyKind.of? r.method r.headers).isSome = true ∧ r.Unreadable g.screen.maxBodyBytes) ∨
        (Screening.request g.screen r).refusal?.isSome = true
    let handled := (g.handle l now r (recorded ε serve) meanwhile).run []
    let after := handled.1.1
    let events := handled.1.2.events
    let calls := handled.2
    ∃ o : Outcome,
      (∀ o', outcomeCount o' events
          = (if o' = o then 1 else 0)
            + (calls.map fun c => outcomeCount o' (serve c.1 c.2).2).sum) ∧
        (o = .bypassed ↔
          g.settings.meters r.path = false ∧ g.settings.screens r.path = false) ∧
        (o = .rateLimited ↔ denies) ∧
        (o = .rejected ↔ ¬ denies ∧ g.settings.screens r.path = true ∧ fails) ∧
        (o = .admitted ↔ (g.settings.meters r.path = true ∨ g.settings.screens r.path = true) ∧
          ¬ denies ∧ ¬ (g.settings.screens r.path = true ∧ fails)) ∧
        calls = (if o = .bypassed ∨ o = .admitted then [(after, r)] else []) ∧
        (o = .rateLimited → (∀ e ∈ events, e.isFinding = false) ∧
          ∀ screen, (handle { g with screen } l now r (recorded ε serve) meanwhile).run []
            = handled) ∧
        (g.settings.meters r.path = false → after = l) := by
  intro denies fails run after events calls
  obtain ⟨hafter, hcalls⟩ := calls_handled ε g l now r serve meanwhile
  obtain ⟨hbypassed, hlimited, hrejected⟩ := g.outcome_rule l now r meanwhile
  have hfails : (∃ e, (g.inspect r).2 = .error e) ↔ fails := g.inspect_fails_iff r
  rw [hfails] at hrejected
  refine ⟨(g.rule l now r meanwhile).2.1.outcome, fun o' => ?_, hbypassed, hlimited, hrejected, ?_,
    ?_, fun h => ?_, fun hfree => ?_⟩
  · have hcount := count_handled ε g l now r serve meanwhile o'
    rw [g.count_rule l now r meanwhile hquiet, Nat.zero_add] at hcount
    rw [outcomeCount_eq]
    simp only [outcomeCount_eq]
    exact hcount
  · -- what is neither of the other three is admitted
    have happlies : (g.settings.meters r.path = true ∨ g.settings.screens r.path = true)
        ↔ (g.rule l now r meanwhile).2.1.outcome ≠ .bypassed := by
      rw [ne_eq, hbypassed, not_and_or, Bool.not_eq_false, Bool.not_eq_false]
    have hpasses : ¬ denies ∧ ¬ (g.settings.screens r.path = true ∧ fails)
        ↔ (g.rule l now r meanwhile).2.1.outcome ≠ .rateLimited ∧
          (g.rule l now r meanwhile).2.1.outcome ≠ .rejected := by
      rw [ne_eq, ne_eq, hlimited, hrejected]
      exact and_congr_right fun hnot => not_congr (and_iff_right hnot).symm
    rw [happlies, hpasses]
    cases (g.rule l now r meanwhile).2.1.outcome <;> simp
  · rw [show after = (g.rule l now r meanwhile).1 from hafter]
    exact hcalls
  · exact handled_of_denied ε g l now r serve meanwhile hquiet (hlimited.mp h)
  · exact hafter.trans (limiter_rule g l now r meanwhile hfree)

/-- A limiter whose shared store leaves it waiting, after a first request has used up the burst. -/
def spent : Limiter ℚ (ScriptedStore ℚ) :=
  ((Limiter.start ⟨⟨2, 60⟩, ⟨1, 1⟩, .ofMillis 250⟩
    (some (.start .silent []))).requestQuota 3 [.ip unknownAddress]).1

/-- Upkeep that falls due while a call waits. -/
def sweepMeanwhile : Limiter.Change ℚ (ScriptedStore ℚ) := fun l =>
  ((l.sweep 3).1, (l.sweep 3).2.2)

/-- A form of three octets. -/
def shortForm : Request :=
  { Request.ofPathAndQuery .post "/items" with
    headers := Headers.setText Table.empty "content-type" "application/x-www-form-urlencoded"
    body := Text.encode "a=b" }

/-- A form that breaks off after three octets. -/
def brokenForm : Request :=
  { shortForm with bodyFault := some "connection reset" }

/-- One client, who is denied once the quota is spent, and two requests with bodies, of which one
cannot be read. -/
theorem handle_outcome_spent :
    let handled (now : ℚ) (r : Request) := ((⟨.standard, .standard⟩ : Gate).handle spent now r
      (recorded Unit fun _ _ => (.ofStatus 200, [])) sweepMeanwhile).run []
    let denied := handled 3 (.ofPathAndQuery .get "/items")
    let broken := handled 63 brokenForm
    let short := handled 63 shortForm
    (∀ l, Quiet (sweepMeanwhile l).2) ∧
      (outcomeCount .rateLimited denied.1.2.events = 1 ∧
        outcomeCount .admitted denied.1.2.events = 0 ∧ denied.2 = []) ∧
      (outcomeCount .rejected broken.1.2.events = 1 ∧ broken.2 = []) ∧
      outcomeCount .admitted short.1.2.events = 1 ∧ short.2 = [(short.1.1, shortForm)] := by
  intro handled denied broken short
  have hquiet : ∀ l, Quiet (sweepMeanwhile l).2 := by
    intro l e he
    rw [List.mem_singleton.mp he]
    exact ⟨rfl, nofun⟩
  have houtcome := fun now r => handle_outcome Unit ⟨.standard, .standard⟩ spent now r
    (fun _ _ => (.ofStatus 200, [])) sweepMeanwhile hquiet
  refine ⟨hquiet, ?_, ?_, ?_⟩
  · obtain ⟨o, hcount, -, hlimited, -, -, hcalls, -⟩ := houtcome 3 (.ofPathAndQuery .get "/items")
    have ho : o = .rateLimited := hlimited.mpr ⟨by decide +kernel, by decide +kernel⟩
    subst ho
    have hnone : denied.2 = [] := hcalls
    refine ⟨?_, ?_, hnone⟩
    · exact (hcount .rateLimited).trans (by rw [show denied.2 = [] from hnone]; rfl)
    · exact (hcount .admitted).trans (by rw [show denied.2 = [] from hnone]; rfl)
  · obtain ⟨o, hcount, -, -, hrejected, -, hcalls, -⟩ := houtcome 63 brokenForm
    have ho : o = .rejected :=
      hrejected.mpr ⟨by decide +kernel, by decide +kernel, .inl ⟨by decide +kernel, .broken rfl⟩⟩
    subst ho
    have hnone : broken.2 = [] := hcalls
    exact ⟨(hcount .rejected).trans (by rw [show broken.2 = [] from hnone]; rfl), hnone⟩
  · obtain ⟨o, hcount, -, -, -, hadmitted, hcalls, -⟩ := houtcome 63 shortForm
    have ho : o = .admitted :=
      hadmitted.mpr ⟨by decide +kernel, by decide +kernel, by decide +kernel⟩
    subst ho
    have hone : short.2 = [(short.1.1, shortForm)] := hcalls
    exact ⟨(hcount .admitted).trans (by rw [show short.2 = _ from hone]; rfl), hone⟩

end Gate

end AdmissionGate
