import AdmissionGate.Proofs.Quota.Run
import AdmissionGate.Proofs.Shared.Replies

/-!
# Failover

A limiter asks its shared store first and falls back on its windows in memory. How much of this can
be noticed? Nothing, where the shared store either fails every call or answers from windows itself.

* `OnItsOwn.verdicts_eq`: a limiter whose shared store fails every call decides by its windows in
  memory alone.
* `Twins`: a limiter without a shared store and one that is served by the windows of its shared store
  mirror the same log, although sweeps reach only one of the two.
* `failover_equivalence`: the three limiters decide alike, and begin anew when they are closed.
-/

namespace AdmissionGate

open Instant SharedStore

namespace Limiter

variable {τ : Type} [Instant τ] {σ σ' : Type} [SharedStore σ τ] [SharedStore σ' τ]

/-! ## A shared store that fails every call -/

/-- Any shared store of a limiter fails every call. -/
def OnItsOwn (l : Limiter τ σ) : Prop := ∀ store, l.shared = some store → FailsEvery store

namespace Session

omit [Instant τ] in
/-- A call on which the shared store fails is answered by the windows in memory. -/
theorem call_onItsOwn {α : Type} {s : Session τ σ} (hidle : s.meanwhile = unchanged)
    (h : s.limiter.OnItsOwn) (operation : StoreOperation) {shared : σ → σ × Reply α}
    (hshared : ∀ store, FailsEvery store →
      (∀ a, (shared store).2 ≠ .answer a) ∧ FailsEvery (shared store).1)
    (own : WindowStore τ → WindowStore τ × α) :
    ∃ s', s.call operation shared own = (s', (own s.limiter.fallback).2) ∧
      s'.limiter.fallback = (own s.limiter.fallback).1 ∧
      s'.limiter.limits = s.limiter.limits ∧ s'.meanwhile = unchanged ∧ s'.limiter.OnItsOwn := by
  have hcall := answered_call hidle operation shared own
  generalize s.call operation shared own = r at hcall
  cases hcall with
  | alone _ => exact ⟨_, rfl, rfl, rfl, hidle, h⟩
  | shared hs ha hasked => exact absurd ha ((hshared _ (h _ hs)).1 _)
  | @failed store s' hs hno hasked =>
    refine ⟨(s'.inMemory own).1, ?_, ?_, hasked.limits, hasked.idle, ?_⟩
    · rw [← hasked.fallback]
      rfl
    · rw [← hasked.fallback]
      rfl
    · intro store' hstore'
      have hshared' : s'.limiter.shared = some store' := hstore'
      rw [hasked.shared] at hshared'
      rw [← Option.some.inj hshared']
      exact (hshared _ (h _ hs)).2

/-- A session whose shared store fails every call runs its plan against the windows in memory. -/
theorem run_onItsOwn {s : Session τ σ} (hidle : s.meanwhile = unchanged)
    (h : s.limiter.OnItsOwn) (now : τ) (plan : Plan τ) :
    (run now s plan).2 = (plan.run WindowStore.counter now s.limiter.fallback).2 ∧
      (run now s plan).1.limiter.fallback
        = (plan.run WindowStore.counter now s.limiter.fallback).1 ∧
      (run now s plan).1.limiter.limits = s.limiter.limits ∧
      (run now s plan).1.limiter.OnItsOwn := by
  induction plan generalizing s with
  | done decision events => exact ⟨rfl, rfl, rfl, h⟩
  | consume key limit next ih =>
    obtain ⟨s', hcall, hfallback, hlimits, hidle', h'⟩ := call_onItsOwn hidle h .consume
      (fun _ hf => hf.consume key limit.limit limit.window now)
      (·.consume key limit.limit limit.window now)
    have hrest := ih (s.limiter.fallback.consume key limit.limit limit.window now).2 hidle' h'
    rw [hfallback, hlimits] at hrest
    rw [run, hcall, Plan.run]
    exact hrest
  | count key window next ih =>
    obtain ⟨s', hcall, hfallback, hlimits, hidle', h'⟩ := call_onItsOwn hidle h .count
      (fun _ hf => hf.count key window now) (·.current key window now)
    have hrest := ih (s.limiter.fallback.current key window now).2 hidle' h'
    rw [hfallback, hlimits] at hrest
    rw [run, hcall, Plan.run]
    exact hrest

end Session

/-- What a limiter on its own decides on a request, and what is left in memory. -/
theorem OnItsOwn.requestQuota {l : Limiter τ σ} (h : l.OnItsOwn) (now : τ)
    (ids : List Identifier) :
    (l.requestQuota now ids).2.1
        = ((Plan.ofIdentifiers l.limits now ids).run WindowStore.counter now l.fallback).2 ∧
      (l.requestQuota now ids).1.fallback
        = ((Plan.ofIdentifiers l.limits now ids).run WindowStore.counter now l.fallback).1 ∧
      (l.requestQuota now ids).1.limits = l.limits ∧ (l.requestQuota now ids).1.OnItsOwn :=
  Session.run_onItsOwn (s := ⟨l, unchanged, l.shared.isSome, []⟩) rfl h now _

omit [Instant τ] in
/-- A limiter that decides on its own goes on to do so when its store is closed. -/
theorem OnItsOwn.close {l : Limiter τ σ}
    (hclose : ∀ store : σ, FailsClosed (SharedStore.close store)) : l.close.OnItsOwn := by
  intro store hstore
  obtain ⟨store', -, rfl⟩ := Option.map_eq_some_iff.mp hstore
  exact (hclose store').failsEvery

/-- Limiters that are on their own and have the same in memory decide alike, now and after any
steps, whatever the order of their times. -/
theorem OnItsOwn.verdicts_eq {l : Limiter τ σ} {l' : Limiter τ σ'}
    (hclose : ∀ store : σ, FailsClosed (SharedStore.close store))
    (hclose' : ∀ store : σ', FailsClosed (SharedStore.close store))
    (h : l.OnItsOwn) (h' : l'.OnItsOwn) (hlimits : l.limits = l'.limits)
    (hfallback : l.fallback = l'.fallback) (steps : List (Step τ)) :
    l.verdicts steps = l'.verdicts steps := by
  induction steps generalizing l l' with
  | nil => rfl
  | cons step rest ih =>
    cases step with
    | request now ids =>
      obtain ⟨hdecision, hmemory, hkept, hnext⟩ := h.requestQuota now ids
      obtain ⟨hdecision', hmemory', hkept', hnext'⟩ := h'.requestQuota now ids
      rw [verdicts, verdicts, hdecision, hdecision', hlimits, hfallback]
      congr 1
      refine ih hnext hnext' ?_ ?_
      · rw [hkept, hkept', hlimits]
      · rw [hmemory, hmemory', hlimits, hfallback]
    | sweep now =>
      refine ih h h' hlimits ?_
      show (l.fallback.sweep now).1 = (l'.fallback.sweep now).1
      rw [hfallback]
    | close => exact ih (OnItsOwn.close hclose) (OnItsOwn.close hclose') hlimits rfl

/-! ## A shared store that is as good as windows in memory -/

namespace Session

omit [Instant τ] in
/-- A call that the shared store answers is answered by it, and nothing else is asked. -/
theorem call_served {α : Type} {s : Session τ σ} {store : σ} (hidle : s.meanwhile = unchanged)
    (huse : s.useShared = true) (hstore : s.limiter.shared = some store)
    (operation : StoreOperation) (shared : σ → σ × Reply α) {a : α}
    (ha : (shared store).2 = .answer a) (own : WindowStore τ → WindowStore τ × α) :
    ∃ s', s.call operation shared own = (s', a) ∧ s.Asked (shared store).1 true s' := by
  have hcall := answered_call hidle operation shared own
  generalize s.call operation shared own = r at hcall
  cases hcall with
  | alone halone =>
    rcases halone with halone | halone
    · rw [huse] at halone
      cases halone
    · rw [hstore] at halone
      cases halone
  | @shared store' a' s' hs ha' hasked =>
    obtain rfl : store = store' := Option.some.inj (hstore.symm.trans hs)
    obtain rfl : a = a' := Reply.answer.inj (ha.symm.trans ha')
    exact ⟨s', rfl, hasked⟩
  | @failed store' s' hs hno hasked =>
    obtain rfl : store = store' := Option.some.inj (hstore.symm.trans hs)
    exact absurd ha (hno a)

/-- A session whose shared store answers from windows of its own runs its plan against those. -/
theorem run_served {s : Session τ σ} {store : σ} {w : WindowStore τ}
    (hidle : s.meanwhile = unchanged) (huse : s.useShared = true)
    (hstore : s.limiter.shared = some store) (h : AnswersFrom store w) (now : τ) (plan : Plan τ) :
    (run now s plan).2 = (plan.run WindowStore.counter now w).2 ∧
      (run now s plan).1.limiter.limits = s.limiter.limits ∧
      ∃ store', (run now s plan).1.limiter.shared = some store' ∧
        AnswersFrom store' (plan.run WindowStore.counter now w).1 := by
  induction plan generalizing s store w with
  | done decision events => exact ⟨rfl, rfl, store, hstore, h⟩
  | consume key limit next ih =>
    obtain ⟨hreply, hnext⟩ := h.consume key limit.limit limit.window now
    obtain ⟨s', hcall, hasked⟩ := call_served hidle huse hstore .consume
      (SharedStore.consume · key limit.limit limit.window now) hreply
      (·.consume key limit.limit limit.window now)
    have hrest := ih (w.consume key limit.limit limit.window now).2 hasked.idle hasked.useShared
      hasked.shared hnext
    rw [hasked.limits] at hrest
    rw [run, hcall, Plan.run]
    exact hrest
  | count key window next ih =>
    obtain ⟨hreply, hnext⟩ := h.count key window now
    obtain ⟨s', hcall, hasked⟩ := call_served hidle huse hstore .count
      (SharedStore.count · key window now) hreply (·.current key window now)
    have hrest := ih (w.current key window now).2 hasked.idle hasked.useShared hasked.shared hnext
    rw [hasked.limits] at hrest
    rw [run, hcall, Plan.run]
    exact hrest

end Session

/-- With a shared store that answers from windows, a request is decided by these windows. -/
theorem requestQuota_served {l : Limiter τ σ} {store : σ} {w : WindowStore τ}
    (hstore : l.shared = some store) (h : AnswersFrom store w) (now : τ) (ids : List Identifier) :
    (l.requestQuota now ids).2.1
        = ((Plan.ofIdentifiers l.limits now ids).run WindowStore.counter now w).2 ∧
      (l.requestQuota now ids).1.limits = l.limits ∧
      ∃ store', (l.requestQuota now ids).1.shared = some store' ∧
        AnswersFrom store' ((Plan.ofIdentifiers l.limits now ids).run WindowStore.counter now w).1 :=
  Session.run_served (s := ⟨l, unchanged, l.shared.isSome, []⟩) rfl (by simp [hstore]) hstore h
    now _

/-- A limiter on its own and one whose shared store answers from windows: from `since` on, the windows
of both mirror one log. -/
structure Twins (since : τ) (l : Limiter τ σ) (l' : Limiter τ σ') : Prop where
  onItsOwn : l.OnItsOwn
  limits : l'.limits = l.limits
  served : ∃ store w L, l'.shared = some store ∧ AnswersFrom store w ∧
    Mirrors (windowOf l.limits) since l.fallback L ∧ Mirrors (windowOf l.limits) since w L

namespace Twins

variable [LawfulInstant τ] {since now : τ} {l : Limiter τ σ} {l' : Limiter τ σ'}

/-- Twins decide alike and stay twins. -/
theorem requestQuota (h : Twins since l l') (hnow : NotAfter since now) (ids : List Identifier) :
    (l.requestQuota now ids).2.1 = (l'.requestQuota now ids).2.1 ∧
      Twins now (l.requestQuota now ids).1 (l'.requestQuota now ids).1 := by
  obtain ⟨store, w, L, hstore, hanswers, hown, hshared⟩ := h.served
  have hasks := Plan.asks_ofIdentifiers l.limits now ids
  obtain ⟨hdecision, hmemory, hlimits, halone⟩ := h.onItsOwn.requestQuota now ids
  obtain ⟨hdecision', hlimits', store', hstore', hanswers'⟩ :=
    requestQuota_served hstore hanswers now ids
  rw [h.limits] at hdecision' hlimits' hanswers'
  obtain ⟨hlog, hown'⟩ := hown.run hnow hasks
  obtain ⟨hlog', hshared'⟩ := hshared.run hnow hasks
  constructor
  · rw [hdecision, hdecision', hlog, hlog']
  · generalize Plan.ofIdentifiers l.limits now ids = plan at *
    rw [← hmemory, ← hlimits] at hown'
    rw [← hlimits] at hshared'
    exact ⟨halone, hlimits'.trans hlimits.symm, store', _, _, hstore', hanswers', hown', hshared'⟩

/-- A sweep, which reaches only one of them, leaves twins twins. -/
theorem sweep (h : Twins since l l') (hnow : NotAfter since now) :
    Twins now (l.sweep now).1 (l'.sweep now).1 := by
  obtain ⟨store, w, L, hstore, hanswers, hown, hshared⟩ := h.served
  exact ⟨h.onItsOwn, h.limits, store, w, L, hstore, hanswers, hown.sweep hnow, hshared.later hnow⟩

/-- Limiters that are twins come to the same verdicts, at every step that is to come. -/
theorem verdicts_eq (h : Twins since l l')
    (hclose : ∀ store : σ, FailsClosed (SharedStore.close store))
    (hclose' : ∀ store : σ', FailsClosed (SharedStore.close store)) {steps : List (Step τ)}
    (hsince : ∀ t ∈ times steps, NotAfter since t)
    (horder : (times steps).Pairwise NotAfter) :
    l.verdicts steps = l'.verdicts steps := by
  induction steps generalizing since l l' with
  | nil => rfl
  | cons step rest ih =>
    cases step with
    | request now ids =>
      rw [times_request] at hsince horder
      obtain ⟨hdecision, hnext⟩ := h.requestQuota (hsince now (List.mem_cons_self ..)) ids
      rw [verdicts, verdicts, hdecision,
        ih hnext (fun t ht => List.rel_of_pairwise_cons horder ht) (List.pairwise_cons.mp horder).2]
    | sweep now =>
      rw [times_sweep] at hsince horder
      exact ih (h.sweep (hsince now (List.mem_cons_self ..)))
        (fun t ht => List.rel_of_pairwise_cons horder ht) (List.pairwise_cons.mp horder).2
    | close =>
      -- closing leaves nothing in memory and nobody to ask, on both sides
      exact (OnItsOwn.close hclose).verdicts_eq hclose hclose' (OnItsOwn.close hclose')
        h.limits.symm rfl rest

end Twins

/-! ## Failover -/

omit [Instant τ] in
/-- Without a shared store, a limiter decides on its own. -/
theorem onItsOwn_start_none (limits : Limits) : (start limits (none : Option σ)).OnItsOwn := by
  intro store hstore
  cases hstore

omit [Instant τ] in
/-- With a store that fails on every call, a limiter decides on its own. -/
theorem onItsOwn_start_some (limits : Limits) {store : σ} (h : FailsEvery store) :
    (start limits (some store)).OnItsOwn := by
  intro store' hstore
  rw [← Option.some.inj hstore]
  exact h

/-- **Failover cannot be noticed.** Three limiters decide every request alike, as long as the clock
does not go back: one without a shared store, one whose shared store fails every call, and one whose
shared store answers every call from windows of its own. Once they are closed, each decides whatever
follows like a new limiter without a shared store. -/
theorem failover_equivalence [LawfulInstant τ] (limits : Limits) (failing : σ) (serving : σ')
    (hfailing : FailsEvery failing) (hserving : AnswersFrom serving WindowStore.empty)
    (hclose : ∀ store : σ, FailsClosed (SharedStore.close store))
    (hclose' : ∀ store : σ', FailsClosed (SharedStore.close store)) (steps : List (Step τ))
    (htimes : Ascending (times steps)) :
    (start limits (none : Option σ)).decisions steps
        = (start limits (some failing)).decisions steps ∧
      (start limits (none : Option σ)).decisions steps
        = (start limits (some serving)).decisions steps ∧
      ∀ further : List (Step τ),
        ((start limits (none : Option σ)).after steps).close.decisions further
            = (start limits (none : Option σ)).decisions further ∧
          ((start limits (some failing)).after steps).close.decisions further
            = (start limits (none : Option σ)).decisions further ∧
          ((start limits (some serving)).after steps).close.decisions further
            = (start limits (none : Option σ)).decisions further := by
  have hnone : (start limits (none : Option σ)).OnItsOwn := onItsOwn_start_none limits
  have hsome := onItsOwn_start_some limits hfailing
  obtain ⟨since, hsince⟩ := htimes.exists_since
  have htwins : Twins since (start limits (none : Option σ)) (start limits (some serving)) :=
    ⟨hnone, rfl, serving, WindowStore.empty, EventLog.empty, rfl, hserving,
      Mirrors.empty _ since, Mirrors.empty _ since⟩
  refine ⟨?_, ?_, fun further => ⟨?_, ?_, ?_⟩⟩
  · exact congrArg _ (hnone.verdicts_eq hclose hclose hsome rfl rfl steps)
  · exact congrArg _ (htwins.verdicts_eq hclose hclose' hsince htimes.pairwise)
  · exact congrArg _ ((OnItsOwn.close hclose).verdicts_eq hclose hclose hnone
      (limits_after (start limits none) steps) rfl further)
  · exact congrArg _ ((OnItsOwn.close hclose).verdicts_eq hclose hclose hnone
      (limits_after (start limits (some failing)) steps) rfl further)
  · exact congrArg _ ((OnItsOwn.close hclose').verdicts_eq hclose' hclose hnone
      (limits_after (start limits (some serving)) steps) rfl further)

/-- Two clients in the same second, the first of them twice, then a sweep and another try. -/
def twoClients : List (Step Double) :=
  [.request ⟨0x3FF0000000000000⟩ [.ip "a", .user "b"], .request ⟨0x3FF0000000000000⟩ [.ip "a"],
    .sweep ⟨0x4000000000000000⟩, .request ⟨0x4000000000000000⟩ [.ip "a"]]

/-- Two requests a minute, one of them in a second. -/
def tight : Limits := ⟨⟨2, 60⟩, ⟨1, 1⟩, .ofMillis 250⟩

/-- A store that is not answering, after two other failures. -/
def broken : ScriptedStore Double := .start .silent [.closed, .unavailable "down"]

/-- A shared store that always answers. -/
def sound : ScriptedStore Double := .start .ok []

/-- The clients come back after all three limiters have been closed. -/
theorem failover_equivalence_twoClients :
    let alone : Limiter Double (ScriptedStore Double) := start tight none
    let failing := start tight (some broken)
    let served := start tight (some sound)
    alone.decisions twoClients = failing.decisions twoClients ∧
      alone.decisions twoClients = served.decisions twoClients ∧
      (alone.after twoClients).close.decisions twoClients = alone.decisions twoClients ∧
      (failing.after twoClients).close.decisions twoClients = alone.decisions twoClients ∧
      (served.after twoClients).close.decisions twoClients = alone.decisions twoClients := by
  intro alone failing served
  obtain ⟨hfailing, hserved, hclosed⟩ := failover_equivalence tight broken sound
    (ScriptedStore.Fails.failsEvery ⟨rfl, by decide⟩) (ScriptedStore.answersFrom rfl rfl)
    ScriptedStore.failsClosed_close ScriptedStore.failsClosed_close twoClients
    ⟨by decide +kernel, by decide +kernel⟩
  exact ⟨hfailing, hserved, hclosed twoClients⟩

end Limiter

end AdmissionGate
