import AdmissionGate.Proofs.Quota.Key
import AdmissionGate.Proofs.Window.Log
import AdmissionGate.Quota.Limiter

/-!
# Requests for quota as runs of a plan

A request for quota is a plan whose calls are answered by one store or the other. `Plan.run` answers
all of them from one store, and `Session.answered_call` tells for a single call which store answers
it.

* `Session.run_alone`: a session that does not ask its shared store runs its plan against the windows
  in memory.
* `Mirrors.run`: a plan that asks each key for its own window decides on windows in memory as on the
  log that they mirror.
-/

namespace AdmissionGate

open Instant

variable {τ : Type} [Instant τ]

/-! ## Plans -/

namespace Plan

/-- Answers every call of a plan from one store. -/
def run {S : Type} (C : Counter S τ) (now : τ) (s : S) : Plan τ → S × Decision
  | .done decision _ => (s, decision)
  | .consume key limit next =>
    run C now (C.consume s key limit.limit limit.window now).1
      (next (C.consume s key limit.limit limit.window now).2)
  | .count key window next =>
    run C now (C.count s key window now).1 (next (C.count s key window now).2)

/-- Every call of a plan asks its key for one and the same window. -/
def Asks (window : String → UInt64) : Plan τ → Prop
  | .done _ _ => True
  | .consume key limit next => limit.window = window key ∧ ∀ o, (next o).Asks window
  | .count key w next => w = window key ∧ ∀ n, (next n).Asks window

omit [Instant τ] in
/-- The windows of a request are those of its identifiers. -/
theorem mem_windows {ids : List Identifier} {x : Identifier × Tier} :
    x ∈ windows ids ↔ x.1 ∈ ids := by
  obtain ⟨i, tier⟩ := x
  rw [windows, List.mem_flatMap]
  constructor
  · rintro ⟨j, hj, hx⟩
    obtain ⟨_, _, heq⟩ := List.mem_map.mp hx
    rw [← (Prod.mk.inj heq).1]
    exact hj
  · intro hi
    exact ⟨i, hi, List.mem_map_of_mem (by cases tier <;> decide)⟩

/-- A request asks for the windows of its identifiers until one of them denies it, and then counts
those that are sustained. What every such call leaves true of the rest of a plan is true of its plan. -/
theorem ofIdentifiers_induction {P : Plan τ → Prop} {limits : Limits} {now : τ}
    {ids : List Identifier}
    (allow : ∀ remaining limit resetEpoch, P (.done (.allow remaining limit resetEpoch) []))
    (deny : ∀ tier i o, P (denial limits now tier i o))
    (consume : ∀ i ∈ ids, ∀ tier next, (∀ o, P (next o)) →
      P (.consume (windowKey tier i) (limits.tier tier) next))
    (count : ∀ i ∈ ids, ∀ next, (∀ n, P (next n)) →
      P (.count (windowKey .sustained i) limits.sustained.window next)) :
    P (ofIdentifiers limits now ids) := by
  have hcount : ∀ (rest : List Identifier) (remaining : UInt64), (∀ i ∈ rest, i ∈ ids) →
      P (countAll limits now remaining rest) := by
    intro rest
    induction rest with
    | nil => exact fun remaining _ => allow _ _ _
    | cons i rest ih =>
      intro remaining hrest
      exact count i (hrest i (List.mem_cons_self ..)) _ fun n =>
        ih _ fun j hj => hrest j (List.mem_cons_of_mem _ hj)
  have hconsume : ∀ ws : List (Identifier × Tier), (∀ x ∈ ws, x.1 ∈ ids) →
      P (consumeAll limits now (countAll limits now limits.sustained.limit ids) ws) := by
    intro ws
    induction ws with
    | nil => exact fun _ => hcount ids _ fun _ hi => hi
    | cons x rest ih =>
      intro hws
      refine consume x.1 (hws x (List.mem_cons_self ..)) x.2 _ fun o => ?_
      split
      · exact ih fun y hy => hws y (List.mem_cons_of_mem _ hy)
      · exact deny _ _ _
  exact hconsume _ fun x hx => mem_windows.mp hx

/-- A request asks each key for the window of its tier. -/
theorem asks_ofIdentifiers (limits : Limits) (now : τ) (ids : List Identifier) :
    (ofIdentifiers limits now ids).Asks (windowOf limits) :=
  ofIdentifiers_induction (fun _ _ _ => trivial) (fun _ _ _ => trivial)
    (fun i _ tier _ hnext => ⟨(windowOf_windowKey limits tier i).symm, hnext⟩)
    fun i _ _ hnext => ⟨(windowOf_windowKey limits .sustained i).symm, hnext⟩

/-- A property of the decision and the events at every end of a plan. -/
def Ends (P : Decision → List Event → Prop) : Plan τ → Prop
  | .done d events => P d events
  | .consume _ _ next => ∀ o, (next o).Ends P
  | .count _ _ next => ∀ n, (next n).Ends P

omit [Instant τ] in
/-- What holds at every end of a plan holds if it is weakened. -/
theorem Ends.mono {P Q : Decision → List Event → Prop} (hPQ : ∀ d events, P d events → Q d events)
    {plan : Plan τ} (h : plan.Ends P) : plan.Ends Q := by
  induction plan with
  | done d events => exact hPQ d events h
  | consume key limit next ih => exact fun o => ih o (h o)
  | count key window next ih => exact fun n => ih n (h n)

/-- A request ends by being allowed or by being denied. -/
theorem ends_ofIdentifiers {P : Decision → List Event → Prop} {limits : Limits} {now : τ}
    (hallow : ∀ remaining limit resetEpoch, P (.allow remaining limit resetEpoch) [])
    (hdeny : ∀ tier i o, (denial limits now tier i o).Ends P) (ids : List Identifier) :
    (ofIdentifiers limits now ids).Ends P :=
  ofIdentifiers_induction hallow hdeny (fun _ _ _ _ hnext => hnext) fun _ _ _ hnext => hnext

end Plan

/-- Windows in memory decide as the log that they mirror, and go on mirroring it. -/
theorem Mirrors.run [LawfulInstant τ] {window : String → UInt64} {since now : τ} {s : WindowStore τ}
    {L : EventLog τ} (h : Mirrors window since s L) (hnow : NotAfter since now) {plan : Plan τ}
    (hplan : plan.Asks window) :
    (plan.run WindowStore.counter now s).2 = (plan.run EventLog.counter now L).2 ∧
      Mirrors window now (plan.run WindowStore.counter now s).1
        (plan.run EventLog.counter now L).1 := by
  -- the rest of the plan depends on the answer, so it goes on alike only if the answers are the same
  induction plan generalizing since s L with
  | done decision events => exact ⟨rfl, h.later hnow⟩
  | consume key limit next ih =>
    obtain ⟨hwindow, hnext⟩ := hplan
    obtain ⟨hanswer, hafter⟩ := h.consume hnow key limit.limit
    rw [← hwindow] at hanswer hafter
    rw [Plan.run, Plan.run, show (EventLog.counter.consume L key limit.limit limit.window now).2
      = (WindowStore.counter.consume s key limit.limit limit.window now).2 from hanswer.symm]
    exact ih _ hafter (LawfulInstant.isTime_of_notAfter hnow).2 (hnext _)
  | count key w next ih =>
    obtain ⟨rfl, hnext⟩ := hplan
    obtain ⟨hanswer, hafter⟩ := h.current hnow key
    rw [Plan.run, Plan.run, show (EventLog.counter.count L key (window key) now).2
      = (WindowStore.counter.count s key (window key) now).2 from hanswer.symm]
    exact ih _ hafter (LawfulInstant.isTime_of_notAfter hnow).2 (hnext _)

/-! ## Sessions -/

namespace Limiter

variable {σ : Type} [SharedStore σ τ]

namespace Session

/-- Whether a session has no shared store to ask any more. -/
def Alone (s : Session τ σ) : Prop := s.useShared = false ∨ s.limiter.shared = none

/-- What a session is after its shared store was asked and left in the state `store`. -/
structure Asked (s : Session τ σ) (store : σ) (useShared : Bool) (s' : Session τ σ) : Prop where
  limits : s'.limiter.limits = s.limiter.limits
  fallback : s'.limiter.fallback = s.limiter.fallback
  shared : s'.limiter.shared = some store
  useShared : s'.useShared = useShared
  idle : s'.meanwhile = unchanged

/-- Where a call was answered, and what is left of the session. -/
inductive Answered {α : Type} (s : Session τ σ) (shared : σ → σ × Reply α)
    (own : WindowStore τ → WindowStore τ × α) : Session τ σ × α → Prop where
  | alone (h : s.Alone) : Answered s shared own (s.inMemory own)
  | shared {store : σ} {a : α} {s' : Session τ σ} (hs : s.limiter.shared = some store)
      (ha : (shared store).2 = .answer a) (h : s.Asked (shared store).1 true s') :
      Answered s shared own (s', a)
  | failed {store : σ} {s' : Session τ σ} (hs : s.limiter.shared = some store)
      (hno : ∀ a, (shared store).2 ≠ .answer a) (h : s.Asked (shared store).1 false s') :
      Answered s shared own (s'.inMemory own)

section Calls

omit [Instant τ]

/-- A session that is alone goes to the windows in memory. -/
theorem call_alone {α : Type} {s : Session τ σ} (h : s.Alone) (operation : StoreOperation)
    (shared : σ → σ × Reply α) (own : WindowStore τ → WindowStore τ × α) :
    s.call operation shared own = s.inMemory own := by
  rcases h with huse | hshared
  · simp [call, tryShared, huse]
  · simp [call, tryShared, hshared]

/-- A call that is answered leaves the session with its shared store. -/
theorem ask_of_answer {α : Type} {s : Session τ σ} {store : σ} {call : σ → σ × Reply α} {a : α}
    (hidle : s.meanwhile = unchanged) (huse : s.useShared = true)
    (h : (call store).2 = .answer a) (operation : StoreOperation) :
    (s.ask store operation call).2 = some a ∧
      s.Asked (call store).1 true (s.ask store operation call).1 := by
  rcases hcall : call store with ⟨store', reply⟩
  rw [hcall] at h
  subst h
  simp only [ask, hcall]
  exact ⟨trivial, rfl, rfl, rfl, huse, hidle⟩

/-- A call that fails leaves the session alone, whether it had to be waited for or not. -/
theorem ask_of_failure {α : Type} {s : Session τ σ} {store : σ} {call : σ → σ × Reply α}
    (hidle : s.meanwhile = unchanged) (h : ∀ a, (call store).2 ≠ .answer a)
    (operation : StoreOperation) :
    (s.ask store operation call).2 = none ∧
      s.Asked (call store).1 false (s.ask store operation call).1 := by
  rcases hcall : call store with ⟨store', reply⟩
  rw [hcall] at h
  simp only [ask, hcall]
  cases reply with
  | answer a => exact absurd rfl (h a)
  | fault f => exact ⟨rfl, rfl, rfl, rfl, rfl, hidle⟩
  | silence => refine ⟨rfl, ?_, ?_, ?_, rfl, ?_⟩ <;> simp [wait, hidle, unchanged, report, fallBack]

/-- A call is answered by the shared store if that is asked and answers, and otherwise by the windows
in memory. -/
theorem answered_call {α : Type} {s : Session τ σ} (hidle : s.meanwhile = unchanged)
    (operation : StoreOperation) (shared : σ → σ × Reply α)
    (own : WindowStore τ → WindowStore τ × α) :
    Answered s shared own (s.call operation shared own) := by
  cases huse : s.useShared with
  | false =>
    rw [call_alone (Or.inl huse)]
    exact .alone (Or.inl huse)
  | true =>
    cases hshared : s.limiter.shared with
    | none =>
      rw [call_alone (Or.inr hshared)]
      exact .alone (Or.inr hshared)
    | some store =>
      simp only [call, tryShared, huse, hshared]
      -- a fault and a silence leave the same session but for what is reported
      by_cases hanswer : ∃ a, (shared store).2 = .answer a
      · obtain ⟨a, ha⟩ := hanswer
        obtain ⟨hsome, hasked⟩ := ask_of_answer hidle huse ha operation
        generalize s.ask store operation shared = r at hsome hasked ⊢
        obtain ⟨s', _⟩ := r
        subst hsome
        exact .shared hshared ha hasked
      · have hno : ∀ a, (shared store).2 ≠ .answer a := fun a ha => hanswer ⟨a, ha⟩
        obtain ⟨hnone, hasked⟩ := ask_of_failure hidle hno operation
        generalize s.ask store operation shared = r at hnone hasked ⊢
        obtain ⟨s', _⟩ := r
        subst hnone
        exact .failed hshared hno hasked

omit [SharedStore σ τ] in
theorem not_alone {s : Session τ σ} {store : σ} (huse : s.useShared = true)
    (hs : s.limiter.shared = some store) : ¬ s.Alone := by
  intro halone
  rcases halone with halone | halone
  · rw [huse] at halone
    cases halone
  · rw [hs] at halone
    cases halone

omit [SharedStore σ τ] in
/-- A session that still asks its shared store is answered by it, or else goes on in memory. -/
theorem Answered.of_shared {α : Type} {s : Session τ σ} {shared : σ → σ × Reply α}
    {own : WindowStore τ → WindowStore τ × α} {r : Session τ σ × α} {store : σ}
    (h : Answered s shared own r) (huse : s.useShared = true)
    (hs : s.limiter.shared = some store) :
    ((shared store).2 = .answer r.2 ∧ s.Asked (shared store).1 true r.1) ∨
      ∃ s', (∀ a, (shared store).2 ≠ .answer a) ∧ s.Asked (shared store).1 false s' ∧
        r = s'.inMemory own := by
  cases h with
  | alone halone => exact absurd halone (not_alone huse hs)
  | @shared store' a s' hs' ha hasked =>
    obtain rfl : store = store' := Option.some.inj (hs.symm.trans hs')
    exact .inl ⟨ha, hasked⟩
  | @failed store' s' hs' hno hasked =>
    obtain rfl : store = store' := Option.some.inj (hs.symm.trans hs')
    exact .inr ⟨s', hno, hasked, rfl⟩

/-- No call changes the limits. -/
theorem limits_call {α : Type} {s : Session τ σ} (hidle : s.meanwhile = unchanged)
    (operation : StoreOperation) (shared : σ → σ × Reply α)
    (own : WindowStore τ → WindowStore τ × α) :
    (s.call operation shared own).1.limiter.limits = s.limiter.limits ∧
      (s.call operation shared own).1.meanwhile = unchanged := by
  have hcall := answered_call hidle operation shared own
  generalize s.call operation shared own = r at hcall
  cases hcall with
  | alone h => exact ⟨rfl, hidle⟩
  | shared hs ha hasked => exact ⟨hasked.limits, hasked.idle⟩
  | failed hs hno hasked => exact ⟨hasked.limits, hasked.idle⟩

end Calls

/-- A session that is alone runs its plan against the windows in memory. -/
theorem run_alone {s : Session τ σ} (h : s.Alone) (now : τ) (plan : Plan τ) :
    (run now s plan).2 = (plan.run WindowStore.counter now s.limiter.fallback).2 ∧
      (run now s plan).1.limiter
        = { s.limiter with
            fallback := (plan.run WindowStore.counter now s.limiter.fallback).1 } := by
  induction plan generalizing s with
  | done decision events => exact ⟨rfl, rfl⟩
  | consume key limit next ih =>
    rw [run, call_alone h, Plan.run]
    exact ih _ h
  | count key window next ih =>
    rw [run, call_alone h, Plan.run]
    exact ih _ h

/-- A session comes to one of the ends of its plan. -/
theorem decision_run {P : Decision → List Event → Prop} {plan : Plan τ} (h : plan.Ends P)
    (now : τ) (s : Session τ σ) : ∃ events, P (run now s plan).2 events := by
  induction plan generalizing s with
  | done d events => exact ⟨events, h⟩
  | consume key limit next ih => exact ih _ (h _) _
  | count key window next ih => exact ih _ (h _) _

theorem limits_run {s : Session τ σ} (hidle : s.meanwhile = unchanged) (now : τ)
    (plan : Plan τ) : (run now s plan).1.limiter.limits = s.limiter.limits := by
  induction plan generalizing s with
  | done decision events => rfl
  | consume key limit next ih =>
    obtain ⟨hlimits, hidle'⟩ := limits_call hidle .consume
      (SharedStore.consume · key limit.limit limit.window now)
      (·.consume key limit.limit limit.window now)
    exact (ih _ hidle').trans hlimits
  | count key window next ih =>
    obtain ⟨hlimits, hidle'⟩ := limits_call hidle .count (SharedStore.count · key window now)
      (·.current key window now)
    exact (ih _ hidle').trans hlimits

end Session

/-! ## Runs of a limiter -/

/-- What can be done with a limiter, and the reading of the clock at that time. -/
inductive Step (τ : Type) where
  | request (now : τ) (ids : List Identifier)
  | sweep (now : τ)
  | close

/-- The reading of the clock at a step, if the step depends on it. -/
def Step.time? : Step τ → Option τ
  | .request now _ => some now
  | .sweep now => some now
  | .close => none

/-- The readings of the clock during some steps. -/
def times (steps : List (Step τ)) : List τ := steps.filterMap Step.time?

omit [Instant τ] in
@[simp] theorem times_request (now : τ) (ids : List Identifier) (rest : List (Step τ)) :
    times (.request now ids :: rest) = now :: times rest := rfl

omit [Instant τ] in
@[simp] theorem times_sweep (now : τ) (rest : List (Step τ)) :
    times (.sweep now :: rest) = now :: times rest := rfl

omit [Instant τ] in
@[simp] theorem times_close (rest : List (Step τ)) : times (.close :: rest) = times rest := rfl

/-- The limiter after a step. -/
def step (l : Limiter τ σ) : Step τ → Limiter τ σ
  | .request now ids => (l.requestQuota now ids).1
  | .sweep now => (l.sweep now).1
  | .close => l.close

/-- The limiter after some steps, one after the other. -/
def after (l : Limiter τ σ) (steps : List (Step τ)) : Limiter τ σ := steps.foldl step l

/-- No steps change the limits. -/
theorem limits_after (l : Limiter τ σ) (steps : List (Step τ)) :
    (l.after steps).limits = l.limits := by
  induction steps generalizing l with
  | nil => rfl
  | cons step rest ih =>
    refine (ih (l.step step)).trans ?_
    cases step with
    | request now ids =>
      exact Session.limits_run (s := ⟨l, unchanged, l.shared.isSome, []⟩) rfl now _
    | sweep now => rfl
    | close => rfl

/-- What a limiter without a shared store decides on a request, and what is left of it. -/
theorem requestQuota_alone {l : Limiter τ σ} (h : l.shared = none) (now : τ)
    (ids : List Identifier) :
    (l.requestQuota now ids).2.1
        = ((Plan.ofIdentifiers l.limits now ids).run WindowStore.counter now l.fallback).2 ∧
      (l.requestQuota now ids).1 = { l with
        fallback :=
          ((Plan.ofIdentifiers l.limits now ids).run WindowStore.counter now l.fallback).1 } :=
  Session.run_alone (s := ⟨l, unchanged, l.shared.isSome, []⟩) (Or.inr h) now _

/-- A limiter does not come by a shared store. -/
theorem shared_after {l : Limiter τ σ} (h : l.shared = none) (steps : List (Step τ)) :
    (l.after steps).shared = none := by
  induction steps generalizing l with
  | nil => exact h
  | cons step rest ih =>
    refine ih (l := l.step step) ?_
    cases step with
    | request now ids =>
      show (l.requestQuota now ids).1.shared = none
      rw [(requestQuota_alone h now ids).2]
      exact h
    | sweep now => exact h
    | close =>
      show l.shared.map SharedStore.close = none
      rw [h]
      rfl

/-- A request for quota that has been decided. -/
structure Verdict (τ : Type) where
  now : τ
  ids : List Identifier
  decision : Decision

/-- The requests among some steps, and how they are decided. -/
def verdicts (l : Limiter τ σ) : List (Step τ) → List (Verdict τ)
  | [] => []
  | .request now ids :: rest =>
    ⟨now, ids, (l.requestQuota now ids).2.1⟩ :: verdicts (l.requestQuota now ids).1 rest
  | .sweep now :: rest => verdicts (l.sweep now).1 rest
  | .close :: rest => verdicts l.close rest

/-- The decisions on the requests among some steps. -/
def decisions (l : Limiter τ σ) (steps : List (Step τ)) : List Decision :=
  (l.verdicts steps).map Verdict.decision

end Limiter

end AdmissionGate
