import AdmissionGate.Proofs.Quota.Decide

/-!
# Requests under way at the same time

Each call to the windows in memory is one step that nothing comes in between, but a request makes many
of them, and the calls of several requests come in any order. `Traffic` is a store of windows with the
requests that are under way; a `Move` lets one of them make its next call, or sweeps the store. An
interleaving is a list of moves.

* `Traffic.run_alone`: one request by itself comes to what its plan comes to, so that traffic of one
  request is a request to a limiter without a shared store.
* `Leads`: the states of the windows that calls for the windows of identifiers can lead to, in whatever
  order and at whatever instants. Traffic does not leave them (`Traffic.leads_run`), nor do the requests
  to a limiter: what it holds in memory is `Reachable` (`Limiter.reachable_after`).
-/

namespace AdmissionGate

open Instant

/-- A request under way: the reading of the clock that it began with, and the calls yet to be made. -/
structure Pending (τ : Type) where
  now : τ
  plan : Plan τ

/-- Windows in memory and the requests under way, with the keys under which events have been recorded
so far and the instants of these. -/
structure Traffic (τ : Type) where
  windows : WindowStore τ
  pending : List (Pending τ)
  granted : List (String × τ)

/-- What can come next: a call of one of the requests, or a sweep. -/
inductive Move (τ : Type) where
  /-- The request in this place makes its next call, if it has one. -/
  | call (place : ℕ)
  | sweep (now : τ)

/-- The decision at the end of a plan. -/
def Plan.decision? {τ : Type} : Plan τ → Option Decision
  | .done d _ => some d
  | _ => none

variable {τ : Type} [Instant τ]

namespace Traffic

/-- The request in a place makes its next call. -/
def call (t : Traffic τ) (place : ℕ) : Traffic τ :=
  match t.pending[place]? with
  | none => t
  | some ⟨_, .done _ _⟩ => t
  | some ⟨now, .consume key limit next⟩ =>
    let (windows, o) := t.windows.consume key limit.limit limit.window now
    ⟨windows, t.pending.set place ⟨now, next o⟩,
      if o.allowed then t.granted ++ [(key, now)] else t.granted⟩
  | some ⟨now, .count key window next⟩ =>
    let (windows, n) := t.windows.current key window now
    ⟨windows, t.pending.set place ⟨now, next n⟩, t.granted⟩

/-- One move of the traffic. -/
def step (t : Traffic τ) : Move τ → Traffic τ
  | .call place => t.call place
  | .sweep now => { t with windows := (t.windows.sweep now).1 }

/-- An interleaving of moves. -/
def run (t : Traffic τ) (moves : List (Move τ)) : Traffic τ := moves.foldl step t

/-- Some requests before their first calls. -/
def start (w : WindowStore τ) (requests : List (Pending τ)) : Traffic τ := ⟨w, requests, []⟩

/-- Every request has come to its end. -/
def IsOver (t : Traffic τ) : Prop := ∀ p ∈ t.pending, ∃ d, p.plan.decision? = some d

/-- The decisions on the requests that have come to their end. -/
def decisions (t : Traffic τ) : List Decision := t.pending.filterMap (·.plan.decision?)

/-- How many events have been recorded under a key. -/
def grants (t : Traffic τ) (key : String) : ℕ := t.granted.countP (·.1 = key)

section Call

variable {t : Traffic τ} {place : ℕ}

theorem call_of_none (hget : t.pending[place]? = none) : t.call place = t := by
  rw [call, hget]

theorem call_done {now : τ} {d : Decision} {events : List Event}
    (hget : t.pending[place]? = some ⟨now, .done d events⟩) : t.call place = t := by
  rw [call, hget]

/-- The next call of a request that asks a window for room. -/
theorem call_consume {now : τ} {key : String} {limit : TierLimit} {next : WindowOutcome τ → Plan τ}
    (hget : t.pending[place]? = some ⟨now, .consume key limit next⟩) :
    t.call place
      = ⟨(t.windows.consume key limit.limit limit.window now).1,
        t.pending.set place ⟨now, next (t.windows.consume key limit.limit limit.window now).2⟩,
        if (t.windows.consume key limit.limit limit.window now).2.allowed
          then t.granted ++ [(key, now)] else t.granted⟩ := by
  rw [call, hget]

/-- The next call of a request that counts a window. -/
theorem call_count {now : τ} {key : String} {window : UInt64} {next : ℕ → Plan τ}
    (hget : t.pending[place]? = some ⟨now, .count key window next⟩) :
    t.call place
      = ⟨(t.windows.current key window now).1,
        t.pending.set place ⟨now, next (t.windows.current key window now).2⟩, t.granted⟩ := by
  rw [call, hget]

end Call

theorem run_cons (t : Traffic τ) (move : Move τ) (moves : List (Move τ)) :
    t.run (move :: moves) = (t.step move).run moves := rfl

/-- No move adds a request or takes one away. -/
theorem length_pending_run (t : Traffic τ) (moves : List (Move τ)) :
    (t.run moves).pending.length = t.pending.length := by
  induction moves generalizing t with
  | nil => rfl
  | cons move rest ih =>
    rw [run_cons, ih]
    cases move with
    | sweep now => rfl
    | call place =>
      show (t.call place).pending.length = t.pending.length
      unfold call
      split
      · rfl
      · rfl
      · exact List.length_set
      · exact List.length_set

/-- One request by itself makes the calls of its plan. -/
theorem run_alone (now : τ) (plan : Plan τ) (w : WindowStore τ) (granted : List (String × τ)) :
    ∃ (calls : ℕ) (events : List Event) (granted' : List (String × τ)),
      (⟨w, [⟨now, plan⟩], granted⟩ : Traffic τ).run (List.replicate calls (.call 0))
        = ⟨(plan.run WindowStore.counter now w).1,
          [⟨now, .done (plan.run WindowStore.counter now w).2 events⟩], granted'⟩ := by
  induction plan generalizing w granted with
  | done d events => exact ⟨0, events, granted, rfl⟩
  | consume key limit next ih =>
    obtain ⟨calls, events, granted', hrun⟩ :=
      ih (w.consume key limit.limit limit.window now).2 (w.consume key limit.limit limit.window now).1
        (if (w.consume key limit.limit limit.window now).2.allowed then granted ++ [(key, now)]
          else granted)
    exact ⟨calls + 1, events, granted', hrun⟩
  | count key window next ih =>
    obtain ⟨calls, events, granted', hrun⟩ :=
      ih (w.current key window now).2 (w.current key window now).1 granted
    exact ⟨calls + 1, events, granted', hrun⟩

end Traffic

/-! ## Ends -/

/-- A plan that makes no more than so many calls, whatever the answers. -/
def Plan.EndsWithin {τ : Type} : ℕ → Plan τ → Prop
  | _, .done _ _ => True
  | 0, _ => False
  | n + 1, .consume _ _ next => ∀ o, (next o).EndsWithin n
  | n + 1, .count _ _ next => ∀ count, (next count).EndsWithin n

namespace Plan

theorem endsWithin_done {τ : Type} (n : ℕ) (d : Decision) (events : List Event) :
    (done d events : Plan τ).EndsWithin n := by
  cases n <;> exact trivial

/-- Counting takes one call for each identifier. -/
theorem endsWithin_countAll (limits : Limits) (now : τ) (remaining : UInt64)
    (ids : List Identifier) : (countAll limits now remaining ids).EndsWithin ids.length := by
  induction ids generalizing remaining with
  | nil => exact trivial
  | cons i rest ih => exact fun n => ih _

/-- Asking for room takes one call for each window. -/
theorem endsWithin_consumeAll {limits : Limits} {now : τ} {next : Plan τ} {n : ℕ}
    (hnext : next.EndsWithin n) (ws : List (Identifier × Tier)) :
    (consumeAll limits now next ws).EndsWithin (n + ws.length) := by
  induction ws with
  | nil => exact hnext
  | cons x rest ih =>
    intro o
    show EndsWithin (n + rest.length) (if o.allowed then _ else _)
    split
    · exact ih
    · exact endsWithin_done ..

theorem length_windows (ids : List Identifier) : (windows ids).length = 2 * ids.length := by
  induction ids with
  | nil => rfl
  | cons i rest ih =>
    show (windows rest).length + 2 = 2 * (rest.length + 1)
    omega

/-- A request asks for two windows of each identifier, and counts one of them once more. -/
theorem endsWithin_ofIdentifiers (limits : Limits) (now : τ) (ids : List Identifier) :
    (ofIdentifiers limits now ids).EndsWithin (3 * ids.length) := by
  have hcalls : 3 * ids.length = ids.length + (windows ids).length := by
    rw [length_windows]
    omega
  rw [ofIdentifiers, hcalls]
  exact endsWithin_consumeAll (endsWithin_countAll limits now _ ids) (windows ids)

theorem EndsWithin.mono {τ : Type} {plan : Plan τ} {m n : ℕ} (h : plan.EndsWithin m)
    (hle : m ≤ n) : plan.EndsWithin n := by
  induction plan generalizing m n with
  | done d events => exact endsWithin_done ..
  | consume key limit next ih =>
    cases m with
    | zero => exact h.elim
    | succ m =>
      obtain ⟨n, rfl⟩ := Nat.exists_eq_succ_of_ne_zero (Nat.ne_zero_of_lt hle)
      exact fun o => ih o (h o) (Nat.le_of_succ_le_succ hle)
  | count key window next ih =>
    cases m with
    | zero => exact h.elim
    | succ m =>
      obtain ⟨n, rfl⟩ := Nat.exists_eq_succ_of_ne_zero (Nat.ne_zero_of_lt hle)
      exact fun count => ih count (h count) (Nat.le_of_succ_le_succ hle)

theorem EndsWithin.decision? {τ : Type} {plan : Plan τ} (h : plan.EndsWithin 0) :
    ∃ d, plan.decision? = some d := by
  cases plan with
  | done d events => exact ⟨d, rfl⟩
  | consume key limit next => exact h.elim
  | count key window next => exact h.elim

end Plan

/-- Whether the request in this place makes its next call. -/
def Move.isCall {τ : Type} (place : ℕ) : Move τ → Bool
  | .call other => decide (other = place)
  | .sweep _ => false

namespace Traffic

/-- A call takes from its own request one of those that are left, and from the others none. -/
theorem endsWithin_call {t : Traffic τ} {place other n : ℕ} {p : Pending τ}
    (hends : ∀ q, t.pending[other]? = some q →
      q.plan.EndsWithin (n + if place = other then 1 else 0))
    (hget : (t.call place).pending[other]? = some p) : p.plan.EndsWithin n := by
  -- a call replaces the plan in its own place by what follows the answer, and no other plan
  by_cases heq : place = other
  · subst heq
    simp only [if_pos] at hends
    have hset : ∀ q, (t.pending.set place q)[place]? = some p → q = p := by
      intro q hq
      rw [List.getElem?_set_self'] at hq
      obtain ⟨_, -, hq⟩ := Option.map_eq_some_iff.mp hq
      exact hq
    unfold call at hget
    split at hget
    · next hnone =>
      rw [hnone] at hget
      cases hget
    · next hdone =>
      rw [hdone] at hget
      cases hget
      exact Plan.endsWithin_done ..
    · next hconsume =>
      obtain rfl := hset _ hget
      exact hends _ hconsume _
    · next hcount =>
      obtain rfl := hset _ hget
      exact hends _ hcount _
  · have hsame : (t.call place).pending[other]? = t.pending[other]? := by
      unfold call
      split
      · rfl
      · rfl
      · exact List.getElem?_set_ne heq
      · exact List.getElem?_set_ne heq
    rw [hsame] at hget
    have hend := hends p hget
    rw [if_neg heq] at hend
    exact hend

/-- Requests that are all given enough moves have ended, whatever comes in between. -/
theorem isOver_run {t : Traffic τ} {moves : List (Move τ)}
    (hends : ∀ (place : ℕ) (p : Pending τ), t.pending[place]? = some p →
      p.plan.EndsWithin (moves.countP (·.isCall place))) : (t.run moves).IsOver := by
  -- induction on the moves: what a request has left never exceeds the moves that it still gets
  induction moves generalizing t with
  | nil =>
    intro p hp
    obtain ⟨place, hget⟩ := List.getElem?_of_mem hp
    exact (hends place p hget).decision?
  | cons move rest ih =>
    rw [run_cons]
    refine ih fun other p hget => ?_
    cases move with
    | sweep now => exact hends other p hget
    | call place =>
      refine endsWithin_call (fun q hq => ?_) hget
      have hend := hends other q hq
      rw [List.countP_cons] at hend
      simp only [Move.isCall, decide_eq_true_eq] at hend
      exact hend

end Traffic

/-! ## What windows become -/

/-- What windows in memory can become by any calls that requests can make and any sweeps. -/
inductive Leads (limits : Limits) (w : WindowStore τ) : WindowStore τ → Prop where
  | refl : Leads limits w w
  | consume {w' : WindowStore τ} (h : Leads limits w w') (x : Identifier × Tier) {now : τ}
      (hnow : IsTime now) : Leads limits w (consumed limits now w' x)
  | current {w' : WindowStore τ} (h : Leads limits w w') (i : Identifier) (now : τ) :
      Leads limits w (w'.current (windowKey .sustained i) limits.sustained.window now).1
  | sweep {w' : WindowStore τ} (h : Leads limits w w') (now : τ) : Leads limits w (w'.sweep now).1

/-- The windows that calls and sweeps lead to, from none. -/
def Reachable (limits : Limits) (w : WindowStore τ) : Prop := Leads limits .empty w

/-- A plan that asks for the windows of identifiers only. -/
def Plan.Fits (limits : Limits) : Plan τ → Prop
  | .done _ _ => True
  | .consume key limit next =>
    (∃ x : Identifier × Tier, key = keyOf x ∧ limit = limits.tier x.2) ∧ ∀ o, (next o).Fits limits
  | .count key window next =>
    (∃ i, key = windowKey .sustained i ∧ window = limits.sustained.window) ∧
      ∀ n, (next n).Fits limits

namespace Plan

/-- A request asks for windows of identifiers, with the limits of their tiers. -/
theorem fits_ofIdentifiers (limits : Limits) (now : τ) (ids : List Identifier) :
    (ofIdentifiers limits now ids).Fits limits :=
  ofIdentifiers_induction (fun _ _ _ => trivial) (fun _ _ _ => trivial)
    (fun i _ tier _ hnext => ⟨⟨(i, tier), rfl, rfl⟩, hnext⟩) fun i _ _ hnext => ⟨⟨i, rfl, rfl⟩, hnext⟩

end Plan

namespace Leads

variable {limits : Limits} {w w' : WindowStore τ} {now : τ}

/-- A plan that fits the limits leads on. -/
theorem run_plan (h : Leads limits w w') (hnow : IsTime now) {plan : Plan τ}
    (hplan : plan.Fits limits) : Leads limits w (plan.run WindowStore.counter now w').1 := by
  induction plan generalizing w' with
  | done d events => exact h
  | consume key limit next ih =>
    obtain ⟨⟨x, rfl, rfl⟩, hnext⟩ := hplan
    exact ih _ (h.consume x hnow) (hnext _)
  | count key window next ih =>
    obtain ⟨⟨i, rfl, rfl⟩, hnext⟩ := hplan
    exact ih _ (h.current i now) (hnext _)

/-- Calls and sweeps keep events in order. -/
theorem ordered [LawfulInstant τ] (h : Leads limits w w') (hw : w.Ordered) : w'.Ordered := by
  induction h with
  | refl => exact hw
  | consume h x hnow ih => exact ih.consume hnow _ _ _
  | current h i now ih => exact ih.current now _ _
  | sweep h now ih => exact ih.sweep now

/-- What a store holds for a window does not grow beyond the limit. -/
theorem length_held_le [LawfulInstant τ] (h : Leads limits w w') (hw : w.Ordered)
    {x : Identifier × Tier}
    (hle : (w.held (keyOf x)).length ≤ (limits.tier x.2).limit.toNat) :
    (w'.held (keyOf x)).length ≤ (limits.tier x.2).limit.toNat := by
  induction h with
  | refl => exact hle
  | consume h y hnow ih => exact length_held_consumed_le (h.ordered hw) y ih
  | current h i now ih =>
    rw [WindowStore.held_current (h.ordered hw)]
    split
    · next heq =>
      rw [heq]
      exact (List.length_filter_le _ _).trans ih
    · exact ih
  | sweep h now ih =>
    rw [WindowStore.held_sweep_lastWindow (h.ordered hw)]
    exact (List.length_filter_le _ _).trans ih

end Leads

namespace Reachable

variable {limits : Limits} {w : WindowStore τ} {now : τ}

/-- A key is only ever asked for its own window. -/
theorem lastWindow (h : Reachable limits w) {key : String} {window : UInt64}
    (hlast : w.lastWindow? key = some window) : window = windowOf limits key := by
  -- the tier can be told from the key, so two calls for one key never differ in the window
  induction h with
  | refl => cases hlast
  | consume h x hnow ih =>
    rw [consumed, WindowStore.lastWindow?_consume] at hlast
    split at hlast
    · next heq => rw [← Option.some.inj hlast, ← heq, keyOf, windowOf_windowKey]
    · exact ih hlast
  | current h i now ih =>
    rw [WindowStore.lastWindow?_current] at hlast
    split at hlast
    · next heq =>
      obtain ⟨_, -, rfl⟩ := Option.map_eq_some_iff.mp hlast
      rw [← heq, windowOf_windowKey]
      rfl
    · exact ih hlast
  | sweep h now ih => exact ih (WindowStore.lastWindow?_of_sweep hlast)

variable [LawfulInstant τ]

/-- Windows that can be reached are in order. -/
theorem ordered (h : Reachable limits w) : w.Ordered := Leads.ordered h WindowStore.ordered_empty

/-- A sweep leaves what is inside of the windows at its instant. -/
theorem held_sweep (h : Reachable limits w) (x : Identifier × Tier) :
    (w.sweep now).1.held (keyOf x) = liveIn limits now w x := by
  refine WindowStore.held_sweep h.ordered fun window hwindow => ?_
  rw [h.lastWindow hwindow, keyOf, windowOf_windowKey]

end Reachable

/-- What a limiter without a shared store holds in memory is reachable at any time. -/
theorem Limiter.reachable_after {σ : Type} [SharedStore σ τ] {l : Limiter τ σ}
    (hshared : l.shared = none) (h : Reachable l.limits l.fallback) {steps : List (Step τ)}
    (htimes : ∀ t ∈ times steps, IsTime t) :
    Reachable l.limits (l.after steps).fallback := by
  -- induction on the steps; after each of them the limiter is one without a shared store again
  induction steps generalizing l with
  | nil => exact h
  | cons step rest ih =>
    have hshared' := shared_after hshared [step]
    have hlimits := limits_after l [step]
    cases step with
    | request now ids =>
      rw [times_request] at htimes
      rw [← hlimits]
      refine ih (l := (l.requestQuota now ids).1) hshared' ?_
        fun t ht => htimes t (List.mem_cons_of_mem _ ht)
      rw [(requestQuota_alone hshared now ids).2]
      exact Leads.run_plan h (htimes now (List.mem_cons_self ..)) (Plan.fits_ofIdentifiers _ now ids)
    | sweep now =>
      rw [times_sweep] at htimes
      exact ih (l := (l.sweep now).1) hshared' (Leads.sweep h now)
        fun t ht => htimes t (List.mem_cons_of_mem _ ht)
    | close => exact ih (l := l.close) hshared' .refl htimes

namespace Traffic

variable {limits : Limits} {w : WindowStore τ} {t : Traffic τ}

/-- Requests that begin at instants and ask for the windows of identifiers only. -/
def Fits (limits : Limits) (t : Traffic τ) : Prop :=
  ∀ p ∈ t.pending, IsTime p.now ∧ p.plan.Fits limits

/-- A move leads on, and leaves plans that fit the limits. -/
theorem leads_step (h : Leads limits w t.windows) (hfits : t.Fits limits) (move : Move τ) :
    Leads limits w (t.step move).windows ∧ (t.step move).Fits limits := by
  -- what a request makes of the answer is part of its plan, and the other requests stay as they are
  have hset : ∀ {place : ℕ} {p : Pending τ}, IsTime p.now → p.plan.Fits limits →
      ∀ q ∈ t.pending.set place p, IsTime q.now ∧ q.plan.Fits limits := by
    intro place p htime hplan q hq
    rcases List.mem_or_eq_of_mem_set hq with hq | rfl
    · exact hfits q hq
    · exact ⟨htime, hplan⟩
  cases move with
  | sweep now => exact ⟨h.sweep now, hfits⟩
  | call place =>
    show Leads limits w (t.call place).windows ∧ (t.call place).Fits limits
    unfold call
    split
    · exact ⟨h, hfits⟩
    · exact ⟨h, hfits⟩
    · next now key limit next hget =>
      obtain ⟨hnow, ⟨x, rfl, rfl⟩, hnext⟩ := hfits _ (List.mem_of_getElem? hget)
      exact ⟨h.consume x hnow, hset hnow (hnext _)⟩
    · next now key window next hget =>
      obtain ⟨hnow, ⟨i, rfl, rfl⟩, hnext⟩ := hfits _ (List.mem_of_getElem? hget)
      exact ⟨h.current i now, hset hnow (hnext _)⟩

/-- An interleaving leads on, and leaves plans that fit the limits. -/
theorem leads_run (h : Leads limits w t.windows) (hfits : t.Fits limits)
    (moves : List (Move τ)) :
    Leads limits w (t.run moves).windows ∧ (t.run moves).Fits limits := by
  induction moves generalizing t with
  | nil => exact ⟨h, hfits⟩
  | cons move rest ih =>
    obtain ⟨h', hfits'⟩ := leads_step h hfits move
    exact ih h' hfits'

end Traffic

end AdmissionGate
