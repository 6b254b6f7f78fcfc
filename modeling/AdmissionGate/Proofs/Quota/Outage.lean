import AdmissionGate.Proofs.Quota.SharedTraffic
import AdmissionGate.Proofs.Report.Counter
import AdmissionGate.Report.Notice
import AdmissionGate.Shared.Scripted

/-!
# Outages of the shared store

A limiter remembers of its shared store only whether the last call to it has failed. That is enough
to tell an outage as one: it is announced once, at its first failed call, and so is its end, while the
failures in between are only noted.

* `Completed.ReportsFrom`: shared calls one after the other, each of which reports what its outcome
  and that of the call before come to. Everything about what is reported follows from this by
  induction on the calls.
* `Chronicle.call`, `Chronicle.sweep`, `Chronicle.run`: one move of requests under way, and any
  interleaving.
* `SharedTraffic.tracksOutages_run`: what is reported in an interleaving, told by the outcomes of the
  shared calls in the order in which these come to their ends.
-/

namespace AdmissionGate

/-! ## What is told about the store -/

namespace Event

/-- The level of a notice about the state of the shared store. -/
def outage? (e : Event) : Option Level :=
  match e with
  | .storeDown _ _ | .storeStillDown _ _ | .storeRecovered _ => e.notice?.map Notice.level
  | _ => none

/-- The value that the gauge of the store's availability is set to. -/
def gauge? (e : Event) : Option Nat :=
  match e.update? with
  | some (key, .set value) => if key = "admission_store_available" then some value else none
  | _ => none

/-- Only shared calls tell about the state of the store. -/
theorem outage?_of_not_isShared {e : Event} (h : e.isShared = false) : e.outage? = none := by
  cases e <;> first | rfl | cases h

/-- Only shared calls set its gauge. -/
theorem gauge?_of_not_isShared {e : Event} (h : e.isShared = false) : e.gauge? = none := by
  cases e <;> first | rfl | cases h

end Event

/-- The levels of the notices about the state of the shared store. -/
def outageLevels (events : List Event) : List Level := events.filterMap Event.outage?

/-- Those of the notices that tell of a change. -/
def turns (events : List Event) : List Level := (outageLevels events).filter (· ≠ .debug)

/-- The values that the gauge of the store's availability is set to. -/
def gaugeValues (events : List Event) : List Nat := events.filterMap Event.gauge?

/-- The value of the gauge after a notice of a change. -/
def gaugeAfter (level : Level) : Nat := if level = .warn then 0 else 1

theorem turns_append (es fs : List Event) : turns (es ++ fs) = turns es ++ turns fs := by
  rw [turns, outageLevels, List.filterMap_append, List.filter_append]
  rfl

/-- The events that have nothing to do with shared calls tell nothing about the store. -/
theorem filterMap_filter_isShared {α : Type} {f : Event → Option α}
    (hf : ∀ {e : Event}, e.isShared = false → f e = none) (events : List Event) :
    (events.filter Event.isShared).filterMap f = events.filterMap f := by
  rw [List.filterMap_filter]
  refine List.filterMap_congr fun e _ => ?_
  cases hshared : e.isShared with
  | true => rfl
  | false => exact (hf hshared).symm

/-! ## One call -/

/-- The notices of a call, by whether the store was down before and whether it is now. -/
def levelsOf : Bool → Bool → List Level
  | false, false => []
  | false, true => [.warn]
  | true, true => [.debug]
  | true, false => [.info]

namespace SharedCall.Reports

variable {down : Bool} {c : SharedCall} {events : List Event}

/-- One call gives one notice at most, which depends on how it ends and how the last one did. -/
theorem outageLevels_eq (h : c.Reports down events) :
    outageLevels events = levelsOf down c.failed := by
  cases h <;> rfl

/-- A call sets the gauge if and only if it tells of a change. -/
theorem gaugeValues_eq (h : c.Reports down events) :
    gaugeValues events = (turns events).map gaugeAfter := by
  cases h <;> rfl

/-- A call that fails counts one fallback, under its reason. -/
theorem count_fallback (h : c.Reports down events) (reason : String) :
    events.count (.fallbackCounted reason)
      = if c.fault.map StoreFault.reason = some reason then 1 else 0 := by
  cases h <;> simp [List.count_cons]

/-- Every call is timed once, under its operation. -/
theorem count_callTimed (h : c.Reports down events) (op : StoreOperation) :
    events.count (.callTimed op) = if c.operation = op then 1 else 0 := by
  cases h <;> simp [List.count_cons]

end SharedCall.Reports

/-! ## Calls one after the other -/

namespace Completed

/-- Whether the store is down after some calls, by whether it was before them. -/
def downAfter : Bool → List Completed → Bool
  | down, [] => down
  | _, c :: rest => downAfter c.call.failed rest

/-- Each call reports what its outcome comes to, seen from that of the call before. -/
def ReportsFrom : Bool → List Completed → Prop
  | _, [] => True
  | down, c :: rest => c.call.Reports down c.reported ∧ ReportsFrom c.call.failed rest

variable {down : Bool} {calls : List Completed}

theorem downAfter_append (down : Bool) (calls calls' : List Completed) :
    downAfter down (calls ++ calls') = downAfter (downAfter down calls) calls' := by
  induction calls generalizing down with
  | nil => rfl
  | cons c rest ih => exact ih c.call.failed

/-- The last of the calls says whether the store is down. -/
theorem downAfter_eq (down : Bool) (calls : List Completed) :
    downAfter down calls = (calls.getLast?.map fun c => c.call.failed).getD down := by
  induction calls generalizing down with
  | nil => rfl
  | cons c rest ih =>
    rw [downAfter, ih, List.getLast?_cons]
    cases rest.getLast? <;> rfl

/-- Calls report in turn, the later ones from where the earlier ones have left off. -/
theorem reportsFrom_append (down : Bool) (calls calls' : List Completed) :
    ReportsFrom down (calls ++ calls')
      ↔ ReportsFrom down calls ∧ ReportsFrom (downAfter down calls) calls' := by
  induction calls generalizing down with
  | nil => exact ⟨fun h => ⟨trivial, h⟩, And.right⟩
  | cons c rest ih =>
    rw [List.cons_append, ReportsFrom, ReportsFrom, ih, and_assoc]
    rfl

namespace ReportsFrom

/-- **Changes alternate**: whatever was told last, the next notice of a change is another. -/
theorem alternate (h : ReportsFrom down calls) :
    ((if down then Level.warn else Level.info) :: turns (calls.flatMap reported)).IsChain
      (· ≠ ·) := by
  induction calls generalizing down with
  | nil => exact List.isChain_singleton _
  | cons c rest ih =>
    obtain ⟨hfirst, hrest⟩ := h
    have hrest := ih hrest
    have hturns : turns c.reported = (levelsOf down c.call.failed).filter (· ≠ .debug) := by
      rw [turns, hfirst.outageLevels_eq]
    rw [List.flatMap_cons, turns_append, hturns]
    -- a call whose outcome is that of the call before does not tell of a change
    cases hfailed : c.call.failed <;> rw [hfailed] at hrest <;> cases down
    · exact hrest
    · exact List.isChain_cons_cons.mpr ⟨by decide, hrest⟩
    · exact List.isChain_cons_cons.mpr ⟨by decide, hrest⟩
    · exact hrest

/-- The gauge is set at every change, and at no other time. -/
theorem gaugeValues_eq (h : ReportsFrom down calls) :
    gaugeValues (calls.flatMap reported) = (turns (calls.flatMap reported)).map gaugeAfter := by
  induction calls generalizing down with
  | nil => rfl
  | cons c rest ih =>
    obtain ⟨hfirst, hrest⟩ := h
    have hvalues := hfirst.gaugeValues_eq
    have hrest := ih hrest
    rw [gaugeValues] at hvalues hrest ⊢
    rw [List.flatMap_cons, turns_append, List.map_append, List.filterMap_append, hvalues, hrest]

theorem of_mem (h : ReportsFrom down calls) {c : Completed} (hc : c ∈ calls) :
    ∃ down, c.call.Reports down c.reported := by
  induction calls generalizing down with
  | nil => cases hc
  | cons first rest ih =>
    rcases List.mem_cons.mp hc with rfl | hc
    · exact ⟨down, h.1⟩
    · exact ih h.2 hc

/-- An event that each call of a kind reports once is reported once for every call of the kind. -/
theorem count_reported (h : ReportsFrom down calls) {counted : Event} {p : SharedCall → Prop}
    [DecidablePred p] (hone : ∀ {down : Bool} {c : SharedCall} {events : List Event},
      c.Reports down events → events.count counted = if p c then 1 else 0) :
    (calls.flatMap reported).count counted = calls.countP fun c => decide (p c.call) := by
  induction calls generalizing down with
  | nil => rfl
  | cons c rest ih =>
    rw [List.flatMap_cons, List.count_append, List.countP_cons, hone h.1, ih h.2, add_comm]
    simp only [decide_eq_true_eq]

/-- The failures of an outage after its first. -/
theorem outageLevels_down (h : ReportsFrom true calls) (hfailed : ∀ c ∈ calls, c.call.failed = true) :
    (calls.flatMap fun c => outageLevels c.reported) = List.replicate calls.length .debug ∧
      downAfter true calls = true := by
  induction calls with
  | nil => exact ⟨rfl, rfl⟩
  | cons c rest ih =>
    obtain ⟨hfirst, hrest⟩ := h
    have hc := hfailed c (List.mem_cons_self ..)
    rw [hc] at hrest
    obtain ⟨hlevels, hdown⟩ := ih hrest fun c' hc' => hfailed c' (List.mem_cons_of_mem _ hc')
    rw [List.flatMap_cons, hlevels, hfirst.outageLevels_eq, hc, downAfter, hc]
    exact ⟨rfl, hdown⟩

end ReportsFrom

end Completed

/-! ## Interleavings -/

open Completed

variable {τ σ : Type} [Instant τ] [SharedStore σ τ]

/-- What holds of requests under way with a shared store at any time. -/
structure Chronicle (t : SharedTraffic τ σ) : Prop where
  silent : ∀ c ∈ t.callers, c.plan.SilentOnStore
  events : t.events.filter Event.isShared = t.completed.flatMap reported
  degraded : t.limiter.degraded = downAfter false t.completed
  reports : ReportsFrom false t.completed
  once : ∀ place, t.completed.countP (fun c => decide (c.place = place) && c.call.failed)
    + (if (t.callers[place]?).any Caller.useShared then 1 else 0) ≤ 1

namespace Chronicle

variable {t : SharedTraffic τ σ}

/-- The plan of a request reports nothing about the store by itself. -/
theorem silent_ofIdentifiers (limits : Limits) (now : τ) (ids : List Identifier) :
    (Plan.ofIdentifiers limits now ids).SilentOnStore := by
  refine Plan.ends_ofIdentifiers ?_ ?_ ids
  · exact fun _ _ _ => nofun
  · intro tier i o e he
    rw [List.mem_singleton.mp he]
    rfl

omit [SharedStore σ τ] in
/-- When nothing has been asked, nothing has been reported. -/
theorem begin (limits : Limits) (store : σ) (requests : List (τ × List Identifier)) :
    Chronicle (.begin limits store requests) where
  silent c hc := by
    obtain ⟨r, -, rfl⟩ := List.mem_map.mp hc
    exact silent_ofIdentifiers limits r.1 r.2
  events := rfl
  degraded := rfl
  reports := trivial
  once place := by
    show 0 + _ ≤ 1
    split <;> omega

omit [Instant τ] [SharedStore σ τ] in
theorem silent_set (h : Chronicle t) {place : ℕ} {c' : Caller τ}
    (hsilent : c'.plan.SilentOnStore) :
    ∀ c ∈ t.callers.set place c', c.plan.SilentOnStore := by
  intro c hc
  rcases List.mem_or_eq_of_mem_set hc with hc | rfl
  · exact h.silent c hc
  · exact hsilent

omit [Instant τ] in
/-- Which callers use the shared store, after one of them has gone on. -/
theorem any_set {callers : List (Caller τ)} {place : ℕ} {c : Caller τ}
    (hget : callers[place]? = some c) (c' : Caller τ) (place' : ℕ) :
    ((callers.set place c')[place']?).any Caller.useShared
      = if place = place' then c'.useShared else (callers[place']?).any Caller.useShared := by
  split
  · next heq =>
    subst heq
    rw [List.getElem?_set_self (List.getElem?_eq_some_iff.mp hget).1, Option.any_some]
  · next hne => rw [List.getElem?_set_ne hne]

/-- A sweep reports nothing about the store. -/
theorem sweep (h : Chronicle t) (now : τ) : Chronicle (t.step (.sweep now)) where
  silent := h.silent
  events := by
    show (t.events ++ _).filter _ = _
    rw [List.filter_append, h.events]
    exact List.append_nil _
  degraded := h.degraded
  reports := h.reports
  once := h.once

omit [Instant τ] [SharedStore σ τ] in
/-- A request that has made a call of its own, or has come to its end. -/
theorem alone (h : Chronicle t) {place : ℕ} {c c' : Caller τ} {s : Limiter.Session τ σ}
    (hget : t.callers[place]? = some c)
    (hsilent : c'.plan.SilentOnStore)
    (hevents : ∀ e ∈ s.events, e.isShared = false)
    (hdegraded : s.limiter.degraded = t.limiter.degraded) (huse : c'.useShared = c.useShared) :
    Chronicle ⟨s.limiter, t.callers.set place c', t.events ++ s.events, t.completed⟩ where
  silent := h.silent_set hsilent
  events := by
    have hnone : s.events.filter Event.isShared = [] :=
      List.filter_eq_nil_iff.mpr fun e he => by simp [hevents e he]
    rw [List.filter_append, hnone, List.append_nil, h.events]
  degraded := hdegraded.trans h.degraded
  reports := h.reports
  once place' := by
    have honce := h.once place'
    rw [any_set hget]
    split
    · next heq =>
      subst heq
      rw [hget, Option.any_some] at honce
      rwa [huse]
    · exact honce

omit [Instant τ] [SharedStore σ τ] in
/-- A request whose shared call has come to an end. -/
theorem shared (h : Chronicle t) {place : ℕ} {c c' : Caller τ} {s : Limiter.Session τ σ}
    {call : SharedCall} (hget : t.callers[place]? = some c)
    (hsilent : c'.plan.SilentOnStore)
    (hasked : c.useShared = true) (hreports : call.Reports t.limiter.degraded s.events)
    (hdegraded : s.limiter.degraded = call.failed) (huse : c'.useShared = !call.failed) :
    Chronicle ⟨s.limiter, t.callers.set place c', t.events ++ s.events,
      t.completed ++ [⟨place, call, s.events⟩]⟩ where
  silent := h.silent_set hsilent
  events := by
    rw [List.filter_append, List.filter_eq_self.mpr hreports.isShared, h.events, List.flatMap_append,
      List.flatMap_singleton]
  degraded := by
    rw [hdegraded, downAfter_append]
    rfl
  reports := by
    rw [h.degraded] at hreports
    exact (reportsFrom_append ..).mpr ⟨h.reports, hreports, trivial⟩
  once place' := by
    -- a request that still asks the shared store has no failed call yet, and has one if this fails
    have honce := h.once place'
    rw [any_set hget, List.countP_append, List.countP_singleton]
    by_cases heq : place = place'
    · subst heq
      rw [hget, Option.any_some, hasked, if_pos rfl] at honce
      have hnone : t.completed.countP (fun c => decide (c.place = place) && c.call.failed) = 0 := by
        omega
      rw [hnone, if_pos rfl, huse]
      cases call.failed <;> simp
    · simpa [heq] using honce

/-- **One call of one request** keeps the chronicle, whatever comes of it. -/
theorem call (h : Chronicle t) (place : ℕ) : Chronicle (t.step (.call place)) := by
  cases hget : t.callers[place]? with
  | none =>
    rw [SharedTraffic.step, SharedTraffic.call_of_none hget]
    exact h
  | some c =>
    obtain ⟨htook, hrest⟩ := Limiter.Session.took_advance (s := t.session c) rfl c.now
      (h.silent c (List.mem_of_getElem? hget))
    rw [SharedTraffic.step, SharedTraffic.call_of_some hget]
    generalize (t.session c).sharedCall? c.now c.plan = asked at htook ⊢
    generalize (t.session c).advance c.now c.plan = left at htook hrest ⊢
    cases htook with
    | @alone _ events hnone hevents hdegraded huse =>
      obtain rfl : left.1.events = events := hevents
      have hsame : Chronicle ⟨left.1.limiter,
          t.callers.set place ⟨c.now, left.1.useShared, left.2⟩, t.events ++ left.1.events,
          t.completed⟩ := h.alone hget hrest hnone hdegraded huse
      rwa [← List.append_nil t.completed] at hsame
    | @shared call _ events hasked hreports hevents hdegraded huse =>
      obtain rfl : left.1.events = events := hevents
      exact h.shared hget hrest hasked hreports hdegraded huse

/-- **Any interleaving** keeps it. -/
theorem run (h : Chronicle t) (moves : List (Move τ)) : Chronicle (t.run moves) := by
  induction moves generalizing t with
  | nil => exact h
  | cons move rest ih =>
    cases move with
    | call place => exact ih (h.call place)
    | sweep now => exact ih (h.sweep now)

end Chronicle

/-- What is reported about the shared store, told by the outcomes of the calls to it. -/
structure TracksOutages (t : SharedTraffic τ σ) : Prop where
  /-- The limiter is degraded if the last shared call has failed. -/
  degraded : t.limiter.degraded = true ↔
    ∃ c, t.completed.getLast? = some c ∧ c.call.failed = true
  /-- All notices about the store are those of its calls. -/
  notices : outageLevels t.events = t.completed.flatMap fun c => outageLevels c.reported
  /-- Warnings and recoveries alternate, and the first of them is a warning. -/
  alternate : (Level.info :: turns t.events).IsChain (· ≠ ·)
  /-- An outage is announced by its first failure, the others are only noted, and the first success
  after it announces the recovery. -/
  outage : ∀ before failures after, t.completed = before ++ failures ++ after →
    failures ≠ [] → (∀ c ∈ failures, c.call.failed = true) →
    (∀ c ∈ before.getLast?, c.call.failed = false) →
    (∀ c ∈ after.head?, c.call.failed = false) →
    (failures.flatMap fun c => outageLevels c.reported)
        = .warn :: List.replicate (failures.length - 1) .debug ∧
      ∀ c ∈ after.head?, outageLevels c.reported = [.info]
  /-- Without a failure just before it, a success is not worth a notice. -/
  calm : ∀ before c after, t.completed = before ++ c :: after → c.call.failed = false →
    (∀ b ∈ before.getLast?, b.call.failed = false) → outageLevels c.reported = []
  /-- The gauge is set by the calls that announce an outage or its end, and by no others. -/
  gauge : gaugeValues t.events = (turns t.events).map gaugeAfter ∧
    ∀ c ∈ t.completed, gaugeValues c.reported = (turns c.reported).map gaugeAfter
  /-- Every failed call is counted under its reason. -/
  fallbacks : ∀ reason, (Metrics.ofEvents t.events).counter (fallbackKey reason)
    = t.completed.countP fun c => decide (c.call.fault.map StoreFault.reason = some reason)
  /-- No request has more than one failed call. -/
  once : ∀ place, t.completed.countP (fun c => decide (c.place = place) && c.call.failed) ≤ 1
  /-- The time of every call is taken. -/
  samples : ∀ op, (Metrics.ofEvents t.events).counter (durationKey op)
    = t.completed.countP fun c => decide (c.call.operation = op)

namespace Chronicle

variable {t : SharedTraffic τ σ}

/-- The store is up after calls of which the last has not failed, and before there are any. -/
theorem downAfter_eq_false {before : List Completed}
    (hlast : ∀ c ∈ before.getLast?, c.call.failed = false) : downAfter false before = false := by
  rw [downAfter_eq]
  cases hc : before.getLast? with
  | none => rfl
  | some c => exact hlast c hc

omit [Instant τ] [SharedStore σ τ] in
/-- Failures in a row between calls that succeed are one outage: announced, noted, and followed by a
recovery. -/
theorem outage (h : Chronicle t) {before failures after : List Completed}
    (hsplit : t.completed = before ++ failures ++ after) (hne : failures ≠ [])
    (hfailed : ∀ c ∈ failures, c.call.failed = true)
    (hbefore : ∀ c ∈ before.getLast?, c.call.failed = false)
    (hafter : ∀ c ∈ after.head?, c.call.failed = false) :
    (failures.flatMap fun c => outageLevels c.reported)
        = .warn :: List.replicate (failures.length - 1) .debug ∧
      ∀ c ∈ after.head?, outageLevels c.reported = [.info] := by
  obtain ⟨first, rest, rfl⟩ := List.exists_cons_of_ne_nil hne
  have hreports := h.reports
  rw [hsplit, List.append_assoc, reportsFrom_append, downAfter_eq_false hbefore] at hreports
  have hfirst := hfailed first (List.mem_cons_self ..)
  obtain ⟨hfell, hreports⟩ := hreports.2
  rw [hfirst] at hreports
  obtain ⟨hrest, hreports⟩ := (reportsFrom_append ..).mp hreports
  obtain ⟨hlevels, hdown⟩ :=
    hrest.outageLevels_down fun c hc => hfailed c (List.mem_cons_of_mem _ hc)
  rw [hdown] at hreports
  constructor
  · rw [List.flatMap_cons, hlevels, hfell.outageLevels_eq, hfirst]
    rfl
  · intro c hc
    cases after with
    | nil => cases hc
    | cons c' after' =>
      obtain rfl : c' = c := Option.some.inj hc
      rw [hreports.1.outageLevels_eq, hafter c' hc]
      rfl

omit [Instant τ] [SharedStore σ τ] in
/-- Between calls that succeed there is nothing to tell. -/
theorem calm (h : Chronicle t) {before : List Completed} {c : Completed} {after : List Completed}
    (hsplit : t.completed = before ++ c :: after) (hc : c.call.failed = false)
    (hbefore : ∀ b ∈ before.getLast?, b.call.failed = false) : outageLevels c.reported = [] := by
  have hreports := h.reports
  rw [hsplit, reportsFrom_append, downAfter_eq_false hbefore] at hreports
  rw [hreports.2.1.outageLevels_eq, hc]
  rfl

omit [Instant τ] [SharedStore σ τ] in
/-- A counter of what each call of a kind reports once shows how many such calls there were. -/
theorem counter_eq (h : Chronicle t) {key : String} {counted : Event} {p : SharedCall → Prop}
    [DecidablePred p] (hkey : ∀ {e : Event} {u : MetricUpdate},
      e.update? = some (key, u) ↔ e = counted ∧ u = .increment) (hshared : counted.isShared = true)
    (hone : ∀ {down : Bool} {c : SharedCall} {events : List Event}, c.Reports down events →
      events.count counted = if p c then 1 else 0) :
    (Metrics.ofEvents t.events).counter key = t.completed.countP fun c => decide (p c.call) := by
  rw [Metrics.counter_eq_count hkey, ← h.reports.count_reported hone, ← h.events,
    List.count_filter hshared]

end Chronicle

/-- **Outages are told as they are.** Requests with any readings make their calls to a limiter with a
shared store in any order, and any of the shared calls fail. -/
theorem SharedTraffic.tracksOutages_run (limits : Limits) (store : σ)
    (requests : List (τ × List Identifier)) (moves : List (Move τ)) :
    TracksOutages ((begin limits store requests).run moves) := by
  have h : Chronicle ((begin limits store requests).run moves) :=
    (Chronicle.begin limits store requests).run moves
  generalize (begin limits store requests).run moves = t at h
  have hlevels : outageLevels t.events = outageLevels (t.completed.flatMap reported) := by
    rw [outageLevels, outageLevels, ← h.events,
      filterMap_filter_isShared Event.outage?_of_not_isShared]
  have hturns : turns t.events = turns (t.completed.flatMap reported) := by
    rw [turns, hlevels, turns]
  have hvalues : gaugeValues t.events = gaugeValues (t.completed.flatMap reported) := by
    rw [gaugeValues, gaugeValues, ← h.events,
      filterMap_filter_isShared Event.gauge?_of_not_isShared]
  refine ⟨?_, ?_, ?_, fun _ _ _ => h.outage, fun _ _ _ => h.calm, ⟨?_, ?_⟩, fun reason => ?_,
    fun place => ?_, fun op => ?_⟩
  · rw [h.degraded, downAfter_eq]
    cases t.completed.getLast? <;> simp
  · rw [hlevels, outageLevels, List.filterMap_flatMap]
    rfl
  · rw [hturns]
    exact h.reports.alternate
  · rw [hvalues, hturns]
    exact h.reports.gaugeValues_eq
  · intro c hc
    obtain ⟨_, hreports⟩ := h.reports.of_mem hc
    exact hreports.gaugeValues_eq
  · exact h.counter_eq Event.update?_eq_fallback rfl fun hc => hc.count_fallback reason
  · exact (Nat.le_add_right _ _).trans (h.once place)
  · exact h.counter_eq Event.update?_eq_duration rfl fun hc => hc.count_callTimed op

/-- Two requests meet a store that fails their first calls, and a third one finds it well again. -/
example :
    outageLevels ((SharedTraffic.begin .standard
        (ScriptedStore.start .ok [.closed, .silent] : ScriptedStore ℚ)
        [(5, [.ip "a"]), (5, [.ip "b"]), (7, [.ip "a"])]).run
          [.call 1, .call 0, .call 1, .call 2, .call 0, .call 2]).events
      = [.warn, .debug, .info] := by
  decide +kernel

end AdmissionGate
