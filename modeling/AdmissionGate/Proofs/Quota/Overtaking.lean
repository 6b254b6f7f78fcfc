import AdmissionGate.Proofs.Quota.Bound
import AdmissionGate.Proofs.Quota.Contention

/-!
# Requests that overtake one another

A request reads the clock once, before its first call, so that its calls may come after those of a
request with a later reading. Whoever asks for a window first drops what has left it by its own
reading, and a request that was overtaken no longer finds these events: an interval that ends at its
reading may come to hold more events than the limit (`overtaken_exceeds`), though no clock has gone
back.

That is all that can go wrong. Events that are recorded before the first one of a later reading than
the end of an interval keep to the limit, and so do all events if they are recorded in the order of
the readings.

* `Plan.CountsGranted`: a request counts only windows that have granted it an event, so counting never
  drops more than recording did.
* `Kept`: what the events of one window so far have to do with those that it still holds.
* `Accounted.call`, `Accounted.sweep`, `Accounted.run`: one move, and any interleaving.
* `events_le`: the bound.
-/

namespace AdmissionGate

open Instant

/-! ## Windows that are counted -/

namespace Plan

variable {τ : Type}

/-- A plan that counts only windows that have granted an event, by the keys of those that have. -/
def CountsGranted (granted : Set String) : Plan τ → Prop
  | .done _ _ => True
  | .consume key _ next =>
    ∀ o, (next o).CountsGranted (granted ∪ {key' | o.allowed = true ∧ key' = key})
  | .count key _ next => key ∈ granted ∧ ∀ n, (next n).CountsGranted granted

/-- What has granted an event does not cease to have done so. -/
theorem CountsGranted.mono {plan : Plan τ} {granted granted' : Set String}
    (h : plan.CountsGranted granted) (hsub : granted ⊆ granted') : plan.CountsGranted granted' := by
  induction plan generalizing granted granted' with
  | done decision events => exact trivial
  | consume key limit next ih =>
    exact fun o => ih o (h o) (Set.union_subset_union_left _ hsub)
  | count key window next ih => exact ⟨hsub h.1, fun n => ih n (h.2 n) hsub⟩

variable [Instant τ]

/-- Counting sustained windows that have granted an event. -/
theorem countsGranted_countAll (limits : Limits) (now : τ) (remaining : UInt64)
    {ids : List Identifier} {granted : Set String}
    (hids : ∀ i ∈ ids, windowKey .sustained i ∈ granted) :
    (countAll limits now remaining ids).CountsGranted granted := by
  induction ids generalizing remaining with
  | nil => exact trivial
  | cons i rest ih =>
    exact ⟨hids i (by simp), fun n => ih _ fun j hj => hids j (List.mem_cons_of_mem _ hj)⟩

/-- Every window that is asked has granted an event once the plan goes on with the next. -/
theorem countsGranted_consumeAll {limits : Limits} {now : τ} {next : Plan τ}
    {ws : List (Identifier × Tier)} {granted : Set String}
    (hnext : next.CountsGranted (granted ∪ {key | ∃ x ∈ ws, key = keyOf x})) :
    (consumeAll limits now next ws).CountsGranted granted := by
  induction ws generalizing granted with
  | nil => exact hnext.mono (by simp)
  | cons x rest ih =>
    intro o
    show CountsGranted _ (if o.allowed then _ else _)
    split
    · next hallowed =>
      refine ih (hnext.mono ?_)
      rintro key (hkey | ⟨y, hy, rfl⟩)
      · exact .inl (.inl hkey)
      · rcases List.mem_cons.mp hy with rfl | hy
        · exact .inl (.inr ⟨hallowed, rfl⟩)
        · exact .inr ⟨y, hy, rfl⟩
    · exact trivial

/-- **A request counts only windows that have granted it an event.** -/
theorem countsGranted_ofIdentifiers (limits : Limits) (now : τ) (ids : List Identifier) :
    (ofIdentifiers limits now ids).CountsGranted ∅ :=
  countsGranted_consumeAll <| countsGranted_countAll limits now _ fun i hi =>
    .inr ⟨(i, .sustained), mem_windows.mpr hi, rfl⟩

end Plan

namespace Traffic

variable {τ : Type} [Instant τ]

/-- The instants that have been recorded under a key, in the order of the calls. -/
def events (t : Traffic τ) (key : String) : List τ :=
  (t.granted.filter fun g => decide (g.1 = key)).map Prod.snd

omit [Instant τ] in
theorem mem_events {t : Traffic τ} {key : String} {now : τ} :
    now ∈ t.events key ↔ (key, now) ∈ t.granted := by
  simp [events]

omit [Instant τ] in
/-- A grant is one more event under its key. -/
theorem events_append (w : WindowStore τ) (pending : List (Pending τ)) (granted : List (String × τ))
    (key key' : String) (now : τ) :
    (⟨w, pending, granted ++ [(key, now)]⟩ : Traffic τ).events key'
      = (⟨w, pending, granted⟩ : Traffic τ).events key' ++ if key = key' then [now] else [] := by
  by_cases hkey : key = key'
  · simp [events, hkey]
  · simp [events, hkey]

/-- Requests before their first calls, each with its reading of the clock. -/
def begin (limits : Limits) (requests : List (τ × List Identifier)) : Traffic τ :=
  start .empty (requests.map fun r => ⟨r.1, .ofIdentifiers limits r.1 r.2⟩)

end Traffic

/-! ## One window -/

section Exact

variable {K : Type} [Field K] [LinearOrder K] [IsStrictOrderedRing K] [FloorRing K]

/-- The events of a window so far and those that it still holds, as seen from the end `u` of an
interval. As long as no later reading has recorded anything, what lies in the interval is held. -/
structure Kept (limit : TierLimit) (u : K) (events held : List K) : Prop where
  held : (∀ e ∈ events, e ≤ u) → (events.filter (Bucket.isLive limit.window u)).Subperm held
  bound : countUpTo limit.window u (events.takeWhile (· ≤ u)) ≤ limit.limit.toNat

namespace Kept

variable {limit : TierLimit} {u now : K} {events held : List K}

omit [IsStrictOrderedRing K] in
theorem empty (limit : TierLimit) (u : K) : Kept limit u [] [] where
  held _ := List.Subperm.refl _
  bound := Nat.zero_le _

/-- What has left the window by an earlier reading is not in the interval. -/
theorem subperm_live (h : Kept limit u events held) (hevents : ∀ e ∈ events, e ≤ u)
    (hnow : now ≤ u) :
    (events.filter (Bucket.isLive limit.window u)).Subperm
      (held.filter (Bucket.isLive limit.window now)) := by
  have hsub := (h.held hevents).filter (Bucket.isLive limit.window now)
  rw [List.filter_filter] at hsub
  refine (List.Perm.of_eq (List.filter_congr fun e _ => ?_)).subperm.trans hsub
  cases hlive : Bucket.isLive limit.window u e with
  | false => rw [Bool.and_false]
  | true => rw [Bucket.isLive_of_notAfter (notAfter_iff_le.mpr hnow) hlive, Bool.and_true]

/-- Dropping what has left the window loses nothing of the interval, unless a later reading has
recorded something. -/
theorem prune (h : Kept limit u events held) (hnow : (∀ e ∈ events, e ≤ u) → now ≤ u) :
    Kept limit u events (held.filter (Bucket.isLive limit.window now)) where
  held hevents := h.subperm_live hevents (hnow hevents)
  bound := h.bound

omit [IsStrictOrderedRing K] in
/-- A window that is full at any reading drops nothing, however late that is. -/
theorem refuse (h : Kept limit u events held) (hle : held.length ≤ limit.limit.toNat)
    (hfull : limit.limit.toNat ≤ (held.filter (Bucket.isLive limit.window now)).length) :
    Kept limit u events (held.filter (Bucket.isLive limit.window now)) := by
  have hsame : held.filter (Bucket.isLive limit.window now) = held :=
    List.filter_sublist.eq_of_length_le (hle.trans hfull)
  rwa [hsame]

/-- An event that has room is one more that is held, and the limit is kept. -/
theorem record (h : Kept limit u events held)
    (hroom : (held.filter (Bucket.isLive limit.window now)).length < limit.limit.toNat) :
    Kept limit u (events ++ [now])
      (Instant.place now (held.filter (Bucket.isLive limit.window now))) := by
  by_cases hall : (∀ e ∈ events, e ≤ u) ∧ now ≤ u
  · obtain ⟨hevents, hnow⟩ := hall
    have hlive := h.subperm_live hevents hnow
    have hfilter : ((events ++ [now]).filter (Bucket.isLive limit.window u)).Subperm
        (now :: held.filter (Bucket.isLive limit.window now)) := by
      rw [List.filter_append]
      refine List.perm_append_comm.subperm.trans ?_
      exact (List.filter_sublist.append_right _).subperm.trans ((List.subperm_cons now).mpr hlive)
    refine ⟨fun _ => hfilter.trans (place_perm now _).symm.subperm, ?_⟩
    have hcount : countUpTo limit.window u ((events ++ [now]).takeWhile (· ≤ u))
        ≤ ((events ++ [now]).filter (Bucket.isLive limit.window u)).length := by
      rw [← List.countP_eq_length_filter]
      refine (List.countP_mono_left fun e _ he => ?_).trans
        ((List.takeWhile_sublist _).countP_le)
      exact isLive_iff_lt.mpr (of_decide_eq_true he).1
    have hlength := hfilter.length_le
    rw [List.length_cons] at hlength
    omega
  · -- an event after a later reading comes too late for both
    have hsame : (events ++ [now]).takeWhile (· ≤ u) = events.takeWhile (· ≤ u) := by
      rw [List.takeWhile_append]
      split
      · next hlength =>
        have htake := (List.takeWhile_sublist (fun e => decide (e ≤ u))).eq_of_length hlength
        have hevents : ∀ e ∈ events, e ≤ u := by
          simpa using List.takeWhile_eq_self_iff.mp htake
        have hlate : ¬ now ≤ u := fun hnow => hall ⟨hevents, hnow⟩
        rw [htake, List.takeWhile_cons_of_neg (by simpa using hlate), List.append_nil]
      · rfl
    refine ⟨fun hevents => absurd ⟨fun e he => ?_, ?_⟩ hall, hsame ▸ h.bound⟩
    · exact hevents e (List.mem_append_left _ he)
    · exact hevents now (by simp)

end Kept

/-! ## Interleavings -/

/-- What holds of requests under way that were alone with an empty store, for one of the windows. -/
structure Accounted (limits : Limits) (x : Identifier × Tier) (u : K) (t : Traffic K) : Prop where
  reachable : Reachable limits t.windows
  fits : t.Fits limits
  counts : ∀ p ∈ t.pending, p.plan.CountsGranted {key | (key, p.now) ∈ t.granted}
  kept : Kept (limits.tier x.2) u (t.events (keyOf x)) (t.windows.held (keyOf x))

namespace Accounted

variable {limits : Limits} {x : Identifier × Tier} {u : K} {t : Traffic K}

omit [IsStrictOrderedRing K] in
/-- Nothing has been recorded yet. -/
theorem begin (limits : Limits) (x : Identifier × Tier) (u : K)
    (requests : List (K × List Identifier)) :
    Accounted limits x u (.begin limits requests) where
  reachable := .refl
  fits p hp := by
    obtain ⟨r, -, rfl⟩ := List.mem_map.mp hp
    exact ⟨isTime_exact r.1, Plan.fits_ofIdentifiers limits r.1 r.2⟩
  counts p hp := by
    obtain ⟨r, -, rfl⟩ := List.mem_map.mp hp
    exact (Plan.countsGranted_ofIdentifiers limits r.1 r.2).mono (Set.empty_subset _)
  kept := .empty _ u

/-- A sweep by a reading that is no later than the end of the interval loses nothing of it. -/
theorem sweep (h : Accounted limits x u t) {now : K} (hnow : now ≤ u) :
    Accounted limits x u (t.step (.sweep now)) where
  reachable := h.reachable.sweep now
  fits := h.fits
  counts := h.counts
  kept := by
    show Kept _ u (t.events (keyOf x)) ((t.windows.sweep now).1.held (keyOf x))
    rw [h.reachable.held_sweep]
    exact h.kept.prune fun _ => hnow

omit [IsStrictOrderedRing K] in
/-- The other requests count windows that have granted them events, as before. -/
theorem counts_set (h : Accounted limits x u t) {place : ℕ} {p : Pending K}
    {granted : List (String × K)} (hsub : t.granted ⊆ granted)
    (hp : p.plan.CountsGranted {key | (key, p.now) ∈ granted}) :
    ∀ q ∈ t.pending.set place p, q.plan.CountsGranted {key | (key, q.now) ∈ granted} := by
  intro q hq
  rcases List.mem_or_eq_of_mem_set hq with hq | rfl
  · exact (h.counts q hq).mono fun key hkey => hsub hkey
  · exact hp

/-- What a window holds never exceeds its limit, so the late reading of a request that is refused
drops nothing. -/
theorem kept_consume (h : Accounted limits x u t) (y : Identifier × Tier) (now : K)
    (pending : List (Pending K)) :
    Kept (limits.tier x.2) u
      ((⟨(consumed limits now t.windows y), pending,
        if (t.windows.consume (keyOf y) (limits.tier y.2).limit (limits.tier y.2).window
          now).2.allowed then t.granted ++ [(keyOf y, now)] else t.granted⟩ : Traffic K).events
        (keyOf x))
      ((consumed limits now t.windows y).held (keyOf x)) := by
  have hordered := h.reachable.ordered
  have hallowed := allowed_consume hordered (isTime_exact now) limits y
  rw [hallowed, consumed, WindowStore.held_consume hordered]
  by_cases hkey : keyOf y = keyOf x
  · have hle := Leads.length_held_le h.reachable WindowStore.ordered_empty (x := x) (Nat.zero_le _)
    rw [if_pos hkey, isFull, liveIn_congr hkey, liveIn, tier_eq_of_keyOf_eq hkey, hkey, recorded]
    by_cases hroom : (t.windows.live (keyOf x) (limits.tier x.2).window now).length
        < (limits.tier x.2).limit.toNat
    · rw [decide_eq_false (Nat.not_le.mpr hroom), Bool.not_false, if_pos rfl, if_pos hroom,
        Traffic.events_append, if_pos rfl]
      exact h.kept.record hroom
    · have hfull := Nat.not_lt.mp hroom
      rw [decide_eq_true hfull, Bool.not_true, if_neg Bool.false_ne_true, if_neg hroom]
      exact h.kept.refuse hle hfull
  · rw [if_neg hkey]
    split
    · rw [Traffic.events_append, if_neg hkey, List.append_nil]
      exact h.kept
    · exact h.kept

/-- **One call of one request**, whatever reading it goes by. -/
theorem call (h : Accounted limits x u t) (place : ℕ) :
    Accounted limits x u (t.step (.call place)) := by
  obtain ⟨hreach, hfits⟩ := Traffic.leads_step h.reachable h.fits (.call place)
  cases hget : t.pending[place]? with
  | none =>
    rw [Traffic.step, Traffic.call_of_none hget]
    exact h
  | some p =>
    obtain ⟨now, plan⟩ := p
    have hmem := List.mem_of_getElem? hget
    have hcounts := h.counts _ hmem
    obtain ⟨-, hplan⟩ := h.fits _ hmem
    cases plan with
    | done decision events =>
      rw [Traffic.step, Traffic.call_done hget]
      exact h
    | consume key limit next =>
      obtain ⟨⟨y, rfl, rfl⟩, -⟩ := hplan
      rw [Traffic.step, Traffic.call_consume hget] at hreach hfits ⊢
      refine ⟨hreach, hfits, ?_, h.kept_consume y now _⟩
      -- if the event is recorded, the request may count its window from now on
      split
      · refine h.counts_set (List.subset_append_left _ _) ((hcounts _).mono ?_)
        rintro key (hkey | ⟨-, rfl⟩)
        · exact List.mem_append_left _ hkey
        · exact List.mem_append_right _ (List.mem_singleton_self _)
      · next hdenied =>
        refine h.counts_set (List.Subset.refl _) ((hcounts _).mono ?_)
        rintro key (hkey | ⟨hallowed, -⟩)
        · exact hkey
        · exact absurd hallowed hdenied
    | count key window next =>
      obtain ⟨⟨i, rfl, rfl⟩, -⟩ := hplan
      rw [Traffic.step, Traffic.call_count hget] at hreach hfits ⊢
      refine ⟨hreach, hfits, h.counts_set (List.Subset.refl _) (hcounts.2 _), ?_⟩
      show Kept _ u (t.events (keyOf x)) ((t.windows.current _ _ now).1.held (keyOf x))
      rw [WindowStore.held_current h.reachable.ordered]
      split
      · next hkey =>
        -- the reading is that of an event of this window
        have hevent : now ∈ t.events (keyOf x) := by
          rw [Traffic.mem_events, ← hkey]
          exact hcounts.1
        have htier : Tier.sustained = x.2 := tier_eq_of_keyOf_eq (x := (i, .sustained)) hkey
        have hwindow : limits.sustained.window = (limits.tier x.2).window := by rw [← htier]; rfl
        rw [hkey, hwindow]
        exact h.kept.prune fun hevents => hevents now hevent
      · exact h.kept

/-- **Any interleaving** with sweeps that are not later than the end of the interval. -/
theorem run (h : Accounted limits x u t) {moves : List (Move K)}
    (hsweeps : ∀ now, Move.sweep now ∈ moves → now ≤ u) : Accounted limits x u (t.run moves) := by
  induction moves generalizing t with
  | nil => exact h
  | cons move rest ih =>
    have hsweeps' := fun now hmem => hsweeps now (List.mem_cons_of_mem _ hmem)
    cases move with
    | call place => exact ih (h.call place) hsweeps'
    | sweep now => exact ih (h.sweep (hsweeps now (List.mem_cons_self ..))) hsweeps'

end Accounted

namespace Traffic

/-- **The quota of an interval under concurrency.** Requests with any readings begin with an empty
store, and their calls come in any order, with sweeps that are not later than `u`. Of the events that
a window records before the first one that is later than `u`, no more than the limit lie in the
window that ends at `u`. If the window records its events in the order of their instants, these are
all of its events in there. -/
theorem events_le (limits : Limits) (requests : List (K × List Identifier)) (moves : List (Move K))
    (i : Identifier) (tier : Tier) (u : K) (hsweeps : ∀ now, Move.sweep now ∈ moves → now ≤ u) :
    let events := ((begin limits requests).run moves).events (windowKey tier i)
    countUpTo (limits.tier tier).window u (events.takeWhile (· ≤ u))
        ≤ (limits.tier tier).limit.toNat ∧
      (events.Pairwise (· ≤ ·) →
        countUpTo (limits.tier tier).window u events ≤ (limits.tier tier).limit.toNat) := by
  intro events
  have hbound : countUpTo (limits.tier tier).window u (events.takeWhile (· ≤ u))
      ≤ (limits.tier tier).limit.toNat :=
    ((Accounted.begin limits (i, tier) u requests).run hsweeps).kept.bound
  refine ⟨hbound, fun horder => ?_⟩
  -- in order, everything from the first later event on is later
  have hascending : Ascending events :=
    ⟨fun e _ => isTime_exact e, horder.imp notAfter_iff_le.mpr⟩
  have hlater : ∀ e ∈ events.dropWhile (· ≤ u), ¬ e ≤ u := by
    intro e he
    rw [show events.dropWhile (· ≤ u) = _ from hascending.dropWhile_eq_filter u] at he
    simpa [notAfter] using (List.mem_filter.mp he).2
  have hnone : countUpTo (limits.tier tier).window u (events.dropWhile (· ≤ u)) = 0 :=
    List.countP_eq_zero.mpr fun e he hin => hlater e he (of_decide_eq_true hin).2
  calc countUpTo (limits.tier tier).window u events
      = countUpTo (limits.tier tier).window u (events.takeWhile (· ≤ u))
        + countUpTo (limits.tier tier).window u (events.dropWhile (· ≤ u)) := by
        rw [countUpTo, countUpTo, countUpTo, ← List.countP_append, List.takeWhile_append_dropWhile]
    _ ≤ (limits.tier tier).limit.toNat := by rw [hnone]; exact hbound

/-- Requests of one client; the clock never goes back while they begin. -/
def overtakers : List (ℚ × List Identifier) :=
  [(1000, [.ip "a"]), (1000, [.ip "a"]), (1059.75, [.ip "a"]), (1060, [.ip "a"])]

/-- The last of them comes before the one that began before it. -/
def overtaking : List (Move ℚ) :=
  [0, 0, 0, 1, 1, 1, 3, 3, 3, 2, 2, 2].map .call

/-- Requests that overtake one another, with what the bound says of their events. -/
theorem events_le_overtaking :
    let events := ((begin ⟨⟨2, 60⟩, ⟨10, 1⟩, .ofMillis 250⟩ overtakers).run overtaking).events
      (windowKey .sustained (.ip "a"))
    countUpTo 60 (1059.75 : ℚ) (events.takeWhile (· ≤ 1059.75)) ≤ 2 ∧
      (events.Pairwise (· ≤ ·) → countUpTo 60 (1059.75 : ℚ) events ≤ 2) :=
  events_le ⟨⟨2, 60⟩, ⟨10, 1⟩, .ofMillis 250⟩ overtakers overtaking (.ip "a") .sustained 1059.75
    (by simp [overtaking])

/-- Three events lie in a window that is limited to two. -/
theorem overtaken_exceeds :
    (overtakers.map Prod.fst).Pairwise (· ≤ ·) ∧
      ¬ countUpTo 60 (1059.75 : ℚ)
        (((begin ⟨⟨2, 60⟩, ⟨10, 1⟩, .ofMillis 250⟩ overtakers).run overtaking).events
          (windowKey .sustained (.ip "a"))) ≤ 2 := by
  decide +kernel

end Traffic

end Exact

end AdmissionGate
