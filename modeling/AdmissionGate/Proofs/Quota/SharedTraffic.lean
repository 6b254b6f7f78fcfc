import AdmissionGate.Proofs.Quota.Traffic

/-!
# Requests under way with a shared store

Requests that are under way at a limiter with a shared store make their calls in any order. Each goes
on with the shared store until a call of its own fails, whatever the others find. A call that is
waited for is told at the moment when it is over, so that its reply and what the limiter makes of it
are one step.

* `Session.advance`: one call of a request, and `Session.run_advance`: a request makes its calls one
  after the other.
* `Session.Took`: what a call does to the limiter and to its request, by what came of it.
* `SharedTraffic.run_request`: a request that nothing comes in between of is one to the limiter.
-/

namespace AdmissionGate

variable {τ σ : Type} [Instant τ] [SharedStore σ τ]

/-! ## Shared calls -/

/-- A call to a shared store that is over, and the fault by which it failed, if it did. -/
structure SharedCall where
  operation : StoreOperation
  fault : Option StoreFault
  deriving DecidableEq

/-- Whether a call has failed, for whatever reason. -/
def SharedCall.failed (c : SharedCall) : Bool := c.fault.isSome

/-- The fault in a reply; a reply that does not come in time is one as well. -/
def Reply.fault? {α : Type} (timeout : Duration) : Reply α → Option StoreFault
  | .answer _ => none
  | .fault f => some f
  | .silence => some (.timeout timeout)

/-- What a call reports, by whether the store was down before. -/
inductive SharedCall.Reports : Bool → SharedCall → List Event → Prop where
  | answered (op : StoreOperation) : Reports false ⟨op, none⟩ [.callTimed op]
  | recovered (op : StoreOperation) (backend : String) :
      Reports true ⟨op, none⟩ [.callTimed op, .storeRecovered backend, .availabilitySet true]
  | fell (op : StoreOperation) (f : StoreFault) :
      Reports false ⟨op, some f⟩
        [.callTimed op, .fallbackCounted f.reason, .storeDown op f, .availabilitySet false]
  | stillDown (op : StoreOperation) (f : StoreFault) :
      Reports true ⟨op, some f⟩
        [.callTimed op, .fallbackCounted f.reason, .storeStillDown op f]

/-- The events that only shared calls report. -/
def Event.isShared : Event → Bool
  | .storeRecovered _ | .storeStillDown _ _ | .storeDown _ _ => true
  | .fallbackCounted _ | .callTimed _ | .availabilitySet _ => true
  | _ => false

/-- What a call reports is reported by shared calls only. -/
theorem SharedCall.Reports.isShared {down : Bool} {c : SharedCall} {events : List Event}
    (h : c.Reports down events) : ∀ e ∈ events, e.isShared = true := by
  cases h <;> simp [Event.isShared]

/-- Whether a plan comes to its end without a word about the shared store. -/
def Plan.SilentOnStore {τ : Type} (plan : Plan τ) : Prop :=
  plan.Ends fun _ events => ∀ e ∈ events, e.isShared = false

namespace Limiter.Session

/-- The call that the shared store is asked for, if it still is, and what comes of it. -/
def asked? {α : Type} (s : Session τ σ) (operation : StoreOperation) (call : σ → σ × Reply α) :
    Option SharedCall :=
  match s.useShared, s.limiter.shared with
  | true, some store => some ⟨operation, (call store).2.fault? s.limiter.limits.storeTimeout⟩
  | _, _ => none

/-- What is left of a session, by what came of the shared call, if one was made. -/
inductive Took (s : Session τ σ) : Option SharedCall → Session τ σ → Prop where
  | alone {s' : Session τ σ} {events : List Event} (hsilent : ∀ e ∈ events, e.isShared = false)
      (hevents : s'.events = s.events ++ events)
      (hdegraded : s'.limiter.degraded = s.limiter.degraded) (huse : s'.useShared = s.useShared) :
      Took s none s'
  | shared {c : SharedCall} {s' : Session τ σ} {events : List Event} (hasked : s.useShared = true)
      (hreports : c.Reports s.limiter.degraded events) (hevents : s'.events = s.events ++ events)
      (hdegraded : s'.limiter.degraded = c.failed) (huse : s'.useShared = !c.failed) :
      Took s (some c) s'

section Calls

omit [Instant τ]

/-- A call that succeeds reports the end of an outage if there was one. -/
theorem reports_recover (s : Session τ σ) (op : StoreOperation) :
    ∃ events, SharedCall.Reports s.limiter.degraded ⟨op, none⟩ events ∧
      (s.recover op).events = s.events ++ events := by
  cases h : s.limiter.degraded with
  | false => exact ⟨_, .answered op, by simp [recover, report, h]⟩
  | true => exact ⟨_, .recovered op s.limiter.backend, by simp [recover, report, h]⟩

omit [SharedStore σ τ] in
/-- A call that fails reports the start of an outage if there was none. -/
theorem reports_fallBack (s : Session τ σ) (op : StoreOperation) (f : StoreFault) :
    ∃ events, SharedCall.Reports s.limiter.degraded ⟨op, some f⟩ events ∧
      (s.fallBack op f).events = s.events ++ events := by
  cases h : s.limiter.degraded with
  | false => exact ⟨_, .fell op f, by simp [fallBack, report, h]⟩
  | true => exact ⟨_, .stillDown op f, by simp [fallBack, report, h]⟩

/-- Asking the store is one shared call, whatever comes of it. -/
theorem took_ask {α : Type} {s : Session τ σ} (hidle : s.meanwhile = unchanged)
    (huse : s.useShared = true) (store : σ) (operation : StoreOperation)
    (call : σ → σ × Reply α) :
    Took s (some ⟨operation, (call store).2.fault? s.limiter.limits.storeTimeout⟩)
      (s.ask store operation call).1 := by
  rcases hcall : call store with ⟨store', reply⟩
  simp only [ask, hcall]
  cases reply with
  | answer a =>
    obtain ⟨events, hreports, hevents⟩ :=
      reports_recover { s with limiter := { s.limiter with shared := some store' } } operation
    exact .shared huse hreports hevents rfl huse
  | fault f =>
    obtain ⟨events, hreports, hevents⟩ :=
      reports_fallBack { s with limiter := { s.limiter with shared := some store' } } operation f
    exact .shared huse hreports hevents rfl rfl
  | silence =>
    -- nothing goes on with the limiter while this call is waited for
    have hwait : ({ s with limiter := { s.limiter with shared := some store' } }).wait
        = { s with limiter := { s.limiter with shared := some store' } } := by
      simp only [wait, hidle, unchanged, report, List.append_nil]
    rw [hwait]
    obtain ⟨events, hreports, hevents⟩ :=
      reports_fallBack { s with limiter := { s.limiter with shared := some store' } } operation
        (.timeout s.limiter.limits.storeTimeout)
    exact .shared huse hreports hevents rfl rfl

/-- A call is the shared one that was asked for, if any was. -/
theorem took_call {α : Type} {s : Session τ σ} (hidle : s.meanwhile = unchanged)
    (operation : StoreOperation) (shared : σ → σ × Reply α)
    (own : WindowStore τ → WindowStore τ × α) :
    Took s (s.asked? operation shared) (s.call operation shared own).1 := by
  have htried : Took s (s.asked? operation shared) (s.tryShared operation shared).1 := by
    have halone : Took s none s :=
      .alone (List.forall_mem_nil _) (List.append_nil _).symm rfl rfl
    cases huse : s.useShared with
    | false => simpa only [asked?, tryShared, huse] using halone
    | true =>
      cases hshared : s.limiter.shared with
      | none => simpa only [asked?, tryShared, huse, hshared] using halone
      | some store =>
        simpa only [asked?, tryShared, huse, hshared] using
          took_ask hidle huse store operation shared
  unfold Session.call
  generalize s.asked? operation shared = asked at htried ⊢
  generalize s.tryShared operation shared = tried at htried
  obtain ⟨s', reply⟩ := tried
  cases reply with
  | some a => exact htried
  | none =>
    -- a call to the windows in memory reports nothing
    cases htried with
    | alone hsilent hevents hdegraded huse => exact .alone hsilent hevents hdegraded huse
    | shared hasked hreports hevents hdegraded huse =>
      exact .shared hasked hreports hevents hdegraded huse

/-- A session in which more has been reported before. -/
def behind (events : List Event) (s : Session τ σ) : Session τ σ :=
  { s with events := events ++ s.events }

/-- What has been reported before makes no difference to asking the store. -/
theorem ask_behind {α : Type} (events : List Event) (s : Session τ σ) (store : σ)
    (operation : StoreOperation) (call : σ → σ × Reply α) :
    (s.behind events).ask store operation call
      = ((s.ask store operation call).1.behind events, (s.ask store operation call).2) := by
  rcases hcall : call store with ⟨store', reply⟩
  simp only [ask, hcall]
  cases reply with
  | answer a =>
    simp only [behind, recover, report, List.append_assoc]
    rfl
  | fault f =>
    simp only [behind, fallBack, report, List.append_assoc]
    rfl
  | silence =>
    simp only [behind, wait, fallBack, report, List.append_assoc]
    rfl

/-- What has been reported before makes no difference to a call. -/
theorem call_behind {α : Type} (events : List Event) (s : Session τ σ) (operation : StoreOperation)
    (shared : σ → σ × Reply α) (own : WindowStore τ → WindowStore τ × α) :
    (s.behind events).call operation shared own
      = ((s.call operation shared own).1.behind events, (s.call operation shared own).2) := by
  have htried : (s.behind events).tryShared operation shared
      = ((s.tryShared operation shared).1.behind events, (s.tryShared operation shared).2) := by
    cases huse : s.useShared with
    | false => simp only [tryShared, behind, huse]
    | true =>
      cases hshared : s.limiter.shared with
      | none => simp only [tryShared, behind, huse, hshared]
      | some store =>
        have hask := ask_behind events s store operation shared
        simpa only [tryShared, behind, huse, hshared] using hask
  unfold Session.call
  rw [htried]
  generalize s.tryShared operation shared = tried
  obtain ⟨s', reply⟩ := tried
  cases reply with
  | some a => rfl
  | none => rfl

end Calls

/-! ## One call of a request -/

/-- A session makes the next call of a plan; at the end of the plan it reports what is left. -/
def advance (now : τ) (s : Session τ σ) : Plan τ → Session τ σ × Plan τ
  | .done decision events => (s.report events, .done decision [])
  | .consume key limit next =>
    let (s, o) :=
      s.call .consume (SharedStore.consume · key limit.limit limit.window now)
        (·.consume key limit.limit limit.window now)
    (s, next o)
  | .count key window next =>
    let (s, n) := s.call .count (SharedStore.count · key window now) (·.current key window now)
    (s, next n)

/-- The shared call that this is, if it is one. -/
def sharedCall? (now : τ) (s : Session τ σ) : Plan τ → Option SharedCall
  | .done _ _ => none
  | .consume key limit _ =>
    s.asked? .consume (SharedStore.consume · key limit.limit limit.window now)
  | .count key window _ => s.asked? .count (SharedStore.count · key window now)

/-- **Making one call and going on with the rest** is running the plan. -/
theorem run_advance (now : τ) (s : Session τ σ) (plan : Plan τ) :
    run now s plan = run now (s.advance now plan).1 (s.advance now plan).2 := by
  cases plan with
  | done decision events => simp [run, advance, report]
  | consume key limit next => rfl
  | count key window next => rfl

/-- One call of a request is one shared call at most, and its plan stays silent about the store. -/
theorem took_advance {s : Session τ σ} (hidle : s.meanwhile = unchanged) (now : τ) {plan : Plan τ}
    (hplan : plan.SilentOnStore) :
    Took s (s.sharedCall? now plan) (s.advance now plan).1 ∧
      (s.advance now plan).2.SilentOnStore := by
  cases plan with
  | done decision events => exact ⟨.alone hplan rfl rfl rfl, nofun⟩
  | consume key limit next => exact ⟨took_call hidle .consume _ _, hplan _⟩
  | count key window next => exact ⟨took_call hidle .count _ _, hplan _⟩

/-- What has been reported before makes no difference. -/
theorem run_behind (events : List Event) (now : τ) (s : Session τ σ) (plan : Plan τ) :
    run now (s.behind events) plan = ((run now s plan).1.behind events, (run now s plan).2) := by
  induction plan generalizing s with
  | done decision events' => simp only [run, behind, report, List.append_assoc]
  | consume key limit next ih =>
    simp only [run, call_behind]
    exact ih _ _
  | count key window next ih =>
    simp only [run, call_behind]
    exact ih _ _

/-- Nothing else goes on with the limiter after a call, if nothing did before. -/
theorem meanwhile_advance {s : Session τ σ} (hidle : s.meanwhile = unchanged) (now : τ)
    (plan : Plan τ) : (s.advance now plan).1.meanwhile = unchanged := by
  cases plan with
  | done decision events => exact hidle
  | consume key limit next => exact (limits_call hidle .consume _ _).2
  | count key window next => exact (limits_call hidle .count _ _).2

/-- What is left of a session after a call, as one that has reported nothing yet. -/
theorem advance_eq_behind {s : Session τ σ} (hidle : s.meanwhile = unchanged) (now : τ)
    (plan : Plan τ) :
    (s.advance now plan).1
      = (⟨(s.advance now plan).1.limiter, unchanged, (s.advance now plan).1.useShared, []⟩ :
          Session τ σ).behind (s.advance now plan).1.events := by
  rw [← meanwhile_advance hidle now plan, behind, List.append_nil]

end Limiter.Session

/-! ## Interleavings -/

/-- A request under way: the reading of the clock that it began with, whether it still asks the shared
store, and the calls yet to be made. -/
structure Caller (τ : Type) where
  now : τ
  useShared : Bool
  plan : Plan τ

/-- A shared call that is over, the place of the request that made it, and what was reported then. -/
structure Completed where
  place : ℕ
  call : SharedCall
  reported : List Event

/-- A limiter and the requests under way, with what has been reported and the shared calls that have
come to an end so far. -/
structure SharedTraffic (τ σ : Type) where
  limiter : Limiter τ σ
  callers : List (Caller τ)
  events : List Event
  completed : List Completed

namespace SharedTraffic

open Limiter

/-- The session of a request before its next call. -/
def session (t : SharedTraffic τ σ) (c : Caller τ) : Session τ σ :=
  ⟨t.limiter, unchanged, c.useShared, []⟩

/-- The request in a place makes its next call. -/
def call (t : SharedTraffic τ σ) (place : ℕ) : SharedTraffic τ σ :=
  match t.callers[place]? with
  | none => t
  | some c =>
    let (s, plan) := (t.session c).advance c.now c.plan
    ⟨s.limiter, t.callers.set place ⟨c.now, s.useShared, plan⟩, t.events ++ s.events,
      t.completed
        ++ (((t.session c).sharedCall? c.now c.plan).map fun call => ⟨place, call, s.events⟩).toList⟩

/-- One move of the traffic. -/
def step (t : SharedTraffic τ σ) : Move τ → SharedTraffic τ σ
  | .call place => t.call place
  | .sweep now =>
    let (limiter, _, events) := t.limiter.sweep now
    { t with limiter, events := t.events ++ events }

/-- An interleaving of moves. -/
def run (t : SharedTraffic τ σ) (moves : List (Move τ)) : SharedTraffic τ σ := moves.foldl step t

/-- A limiter with a shared store, and requests before their first calls, each with its reading of the
clock. -/
def begin (limits : Limits) (store : σ) (requests : List (τ × List Identifier)) :
    SharedTraffic τ σ :=
  ⟨.start limits (some store), requests.map fun r => ⟨r.1, true, .ofIdentifiers limits r.1 r.2⟩,
    [], []⟩

section Call

variable {t : SharedTraffic τ σ} {place : ℕ} {c : Caller τ}

theorem call_of_none (hget : t.callers[place]? = none) : t.call place = t := by
  rw [call, hget]

/-- The next call of a request, with the limiter as it is. -/
theorem call_of_some (hget : t.callers[place]? = some c) :
    t.call place
      = ⟨((t.session c).advance c.now c.plan).1.limiter,
        t.callers.set place ⟨c.now, ((t.session c).advance c.now c.plan).1.useShared,
          ((t.session c).advance c.now c.plan).2⟩,
        t.events ++ ((t.session c).advance c.now c.plan).1.events,
        t.completed ++ (((t.session c).sharedCall? c.now c.plan).map fun call =>
          ⟨place, call, ((t.session c).advance c.now c.plan).1.events⟩).toList⟩ := by
  rw [call, hget]

theorem getElem?_call (hget : t.callers[place]? = some c) :
    (t.call place).callers[place]?
      = some ⟨c.now, ((t.session c).advance c.now c.plan).1.useShared,
        ((t.session c).advance c.now c.plan).2⟩ := by
  rw [call_of_some hget]
  exact List.getElem?_set_self (List.getElem?_eq_some_iff.mp hget).1

end Call

/-- The traffic in which a request has run to its end with nothing in between. -/
def decided (t : SharedTraffic τ σ) (place : ℕ) (c : Caller τ) (completed : List Completed) :
    SharedTraffic τ σ :=
  let r := Session.run c.now (t.session c) c.plan
  ⟨r.1.limiter, t.callers.set place ⟨c.now, r.1.useShared, .done r.2 []⟩, t.events ++ r.1.events,
    completed⟩

/-- The first call makes no difference to the end. -/
theorem decided_call {t : SharedTraffic τ σ} {place : ℕ} {c : Caller τ}
    (hget : t.callers[place]? = some c) (completed : List Completed) :
    (t.call place).decided place
        ⟨c.now, ((t.session c).advance c.now c.plan).1.useShared,
          ((t.session c).advance c.now c.plan).2⟩ completed
      = t.decided place c completed := by
  have hrun : Session.run c.now (t.session c) c.plan = _ := Session.run_advance _ _ _
  rw [Session.advance_eq_behind rfl, Session.run_behind] at hrun
  rw [decided, decided, hrun, call_of_some hget, List.set_set, List.append_assoc]
  rfl

/-- A request that makes all of its calls in a row is decided by running its plan. -/
theorem run_alone {t : SharedTraffic τ σ} {place : ℕ} {c : Caller τ}
    (hget : t.callers[place]? = some c) :
    ∃ (calls : ℕ) (completed : List Completed),
      t.run (List.replicate calls (.call place)) = t.decided place c completed := by
  obtain ⟨now, useShared, plan⟩ := c
  induction plan generalizing t useShared with
  | done decision events =>
    refine ⟨1, (t.call place).completed, ?_⟩
    show t.call place = _
    rw [call_of_some hget]
    rfl
  | consume key limit next ih =>
    obtain ⟨calls, completed, hrun⟩ := ih _ _ (getElem?_call hget)
    exact ⟨calls + 1, completed, hrun.trans (decided_call hget completed)⟩
  | count key window next ih =>
    obtain ⟨calls, completed, hrun⟩ := ih _ _ (getElem?_call hget)
    exact ⟨calls + 1, completed, hrun.trans (decided_call hget completed)⟩

/-- A request that nothing comes in between of is a request to the limiter. -/
theorem run_request {t : SharedTraffic τ σ} {place : ℕ} {now : τ} {ids : List Identifier}
    (hget : t.callers[place]?
      = some ⟨now, t.limiter.shared.isSome, .ofIdentifiers t.limiter.limits now ids⟩) :
    ∃ (calls : ℕ) (useShared : Bool) (completed : List Completed),
      t.run (List.replicate calls (.call place))
        = (let (limiter, decision, events) := t.limiter.requestQuota now ids
          ⟨limiter, t.callers.set place ⟨now, useShared, .done decision []⟩, t.events ++ events,
            completed⟩) := by
  obtain ⟨calls, completed, hrun⟩ := run_alone hget
  exact ⟨calls, _, completed, hrun⟩

end SharedTraffic

end AdmissionGate
