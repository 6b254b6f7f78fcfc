import AdmissionGate.Proofs.Quota.Run
import AdmissionGate.Proofs.Time.Exact
import AdmissionGate.Shared.Scripted

/-!
# What a request is told

A request asks one window after the other, and each call changes the window that the next request
will find. Seen from outside it is one look at the windows as they are before the request: it is
admitted if all of them have room, and otherwise told about the first that has none.

* `Plan.run_consumeAll_full`, `Plan.run_consumeAll_room`: the two ends of the calls that ask for room,
  where the windows of the request have different keys.
* `Plan.run_countAll`: the least room that is left in the end.
* `requestQuota_exact`: the decision of a limiter without a shared store, with exact time, in terms of
  the events that its windows hold before the request.
-/

namespace AdmissionGate

open Instant

variable {τ : Type} [Instant τ] {limits : Limits} {now : τ} {w : WindowStore τ}

/-- The key of the window of an identifier in a tier. -/
def keyOf (x : Identifier × Tier) : String := windowKey x.2 x.1

/-- The events inside the window of an identifier in a tier. -/
def liveIn (limits : Limits) (now : τ) (w : WindowStore τ) (x : Identifier × Tier) : List τ :=
  w.live (keyOf x) (limits.tier x.2).window now

/-- Whether a window has no room for another event. -/
def isFull (limits : Limits) (now : τ) (w : WindowStore τ) (x : Identifier × Tier) : Bool :=
  decide ((limits.tier x.2).limit.toNat ≤ (liveIn limits now w x).length)

/-- The decision on a request for which a window has no room. -/
def refuse (limits : Limits) (now : τ) (w : WindowStore τ) (x : Identifier × Tier) : Decision :=
  .deny ⟨x.2, x.1⟩
    (retryAfter (earliest (liveIn limits now w x)) (limits.tier x.2).window now)
    (limits.tier x.2).limit (wholeSeconds now)

/-- The store after a window was asked for room. -/
def consumed (limits : Limits) (now : τ) (w : WindowStore τ) (x : Identifier × Tier) :
    WindowStore τ :=
  (w.consume (keyOf x) (limits.tier x.2).limit (limits.tier x.2).window now).1

section Keys

variable {x y : Identifier × Tier}

omit [Instant τ] in
/-- The key of a window tells its tier. -/
theorem tier_eq_of_keyOf_eq (h : keyOf x = keyOf y) : x.2 = y.2 := by
  have hlist := congrArg String.toList h
  rw [keyOf, keyOf, toList_windowKey, toList_windowKey] at hlist
  -- the two tiers begin with different letters
  cases hx : x.2 <;> cases hy : y.2 <;> rw [hx, hy] at hlist
  · cases hlist
  · cases hlist

/-- What is live in a window depends on its key only. -/
theorem liveIn_congr (h : keyOf x = keyOf y) : liveIn limits now w x = liveIn limits now w y := by
  rw [liveIn, liveIn, h, tier_eq_of_keyOf_eq h]

end Keys

/-- A call leaves the buckets of all other keys as they are. -/
theorem get?_consumed_of_ne {x : Identifier × Tier} {key : String} (hne : keyOf x ≠ key) :
    (consumed limits now w x).buckets.get? key = w.buckets.get? key := by
  simp only [consumed, WindowStore.consume]
  split <;> simp only [Table.get?_put, if_neg hne]

/-- Asking one window leaves what is held for other keys. -/
theorem held_consumed_of_ne {x : Identifier × Tier} {key : String} (hne : keyOf x ≠ key) :
    (consumed limits now w x).held key = w.held key := by
  rw [WindowStore.held, WindowStore.held, get?_consumed_of_ne hne]

/-- What is live in a window depends on its bucket only. -/
theorem liveIn_of_get?_eq {w' : WindowStore τ} {x : Identifier × Tier}
    (h : w'.buckets.get? (keyOf x) = w.buckets.get? (keyOf x)) :
    liveIn limits now w' x = liveIn limits now w x := by
  simp only [liveIn, WindowStore.live, WindowStore.held, h]

/-- Asking one window does not change another. -/
theorem liveIn_consumed {x y : Identifier × Tier} (hne : keyOf x ≠ keyOf y) :
    liveIn limits now (consumed limits now w x) y = liveIn limits now w y :=
  liveIn_of_get?_eq (get?_consumed_of_ne hne)

/-- A window that is asked for room has a bucket from then on. -/
theorem lastWindow?_consumed_self (x : Identifier × Tier) :
    (consumed limits now w x).lastWindow? (keyOf x) = some (limits.tier x.2).window := by
  rw [consumed, WindowStore.lastWindow?_consume, if_pos rfl]

variable [LawfulInstant τ]

/-- A window with room holds the new event among the live ones, and no others. -/
theorem held_consumed_self (hw : w.Ordered) {x : Identifier × Tier}
    (hroom : isFull limits now w x = false) :
    (consumed limits now w x).held (keyOf x) = place now (liveIn limits now w x) := by
  have hlt : (liveIn limits now w x).length < (limits.tier x.2).limit.toNat := by
    simpa [isFull] using hroom
  rw [consumed, WindowStore.held_consume hw, if_pos rfl, recorded]
  exact if_pos hlt

theorem held_consumed_full (hw : w.Ordered) {x : Identifier × Tier}
    (hfull : isFull limits now w x = true) :
    (consumed limits now w x).held (keyOf x) = liveIn limits now w x := by
  have hle : (limits.tier x.2).limit.toNat ≤ (liveIn limits now w x).length :=
    of_decide_eq_true hfull
  rw [consumed, WindowStore.held_consume hw, if_pos rfl, recorded]
  exact if_neg (Nat.not_lt.mpr hle)

/-- What a store holds for a window does not grow beyond the limit. -/
theorem length_held_consumed_le (hw : w.Ordered) {x : Identifier × Tier} (y : Identifier × Tier)
    (h : (w.held (keyOf x)).length ≤ (limits.tier x.2).limit.toNat) :
    ((consumed limits now w y).held (keyOf x)).length ≤ (limits.tier x.2).limit.toNat := by
  rw [consumed, WindowStore.held_consume hw]
  split
  · next heq =>
    rw [tier_eq_of_keyOf_eq heq, heq]
    exact length_recorded_le ((List.length_filter_le _ _).trans h)
  · exact h

/-- A window that is asked for room says whether it had some. -/
theorem allowed_consume (hw : w.Ordered) (hnow : IsTime now) (limits : Limits)
    (x : Identifier × Tier) :
    (w.consume (keyOf x) (limits.tier x.2).limit (limits.tier x.2).window now).2.allowed
      = !isFull limits now w x := by
  rw [WindowStore.allowed_eq hw hnow, isFull, ← decide_not]
  exact decide_eq_decide.mpr Nat.not_le.symm

/-- Asking a window keeps events in order. -/
theorem ordered_consumed (hw : w.Ordered) (hnow : IsTime now) (x : Identifier × Tier) :
    (consumed limits now w x).Ordered :=
  hw.consume hnow _ _ _

namespace Plan

variable {next : Plan τ} {ws : List (Identifier × Tier)}

/-- The first call of those that ask for room. -/
theorem run_consumeAll_step (hw : w.Ordered) (hnow : IsTime now) (x : Identifier × Tier) :
    (consumeAll limits now next (x :: ws)).run WindowStore.counter now w
      = if isFull limits now w x then (consumed limits now w x, refuse limits now w x)
        else (consumeAll limits now next ws).run WindowStore.counter now
          (consumed limits now w x) := by
  obtain ⟨i, tier⟩ := x
  have hanswer : (w.consume (keyOf (i, tier)) (limits.tier tier).limit (limits.tier tier).window
      now).2 = .ofLive (limits.tier tier).limit now (liveIn limits now w (i, tier)) :=
    WindowStore.consume_snd hw hnow
  -- the call is carried out, and what comes next depends on the answer
  show run _ now (consumed limits now w (i, tier))
    (if (w.consume (keyOf (i, tier)) _ _ now).2.allowed then consumeAll limits now next ws
      else denial limits now tier i (w.consume (keyOf (i, tier)) _ _ now).2) = _
  rw [hanswer, WindowOutcome.ofLive]
  cases hfull : isFull limits now w (i, tier) with
  | true =>
    have hle : (limits.tier tier).limit.toNat ≤ (liveIn limits now w (i, tier)).length :=
      of_decide_eq_true hfull
    rw [if_neg (Nat.not_lt.mpr hle), if_pos rfl]
    rfl
  | false =>
    have hlt : ¬ (limits.tier tier).limit.toNat ≤ (liveIn limits now w (i, tier)).length :=
      of_decide_eq_false hfull
    rw [if_pos (Nat.lt_of_not_le hlt)]
    rfl

omit [LawfulInstant τ] in
/-- Asking the first of some windows with different keys does not change the others. -/
theorem liveIn_consumed_of_nodup {x : Identifier × Tier} (hkeys : ((x :: ws).map keyOf).Nodup) :
    ∀ y ∈ ws, liveIn limits now (consumed limits now w x) y = liveIn limits now w y := by
  intro y hy
  rw [List.map_cons, List.nodup_cons] at hkeys
  refine liveIn_consumed fun heq => hkeys.1 ?_
  rw [heq]
  exact List.mem_map_of_mem hy

/-- If some windows have room, each of them holds one more event when they have been asked, nothing
else has changed, and the calls go on with the windows that follow. -/
theorem run_consumeAll_room (hw : w.Ordered) (hnow : IsTime now) (hkeys : (ws.map keyOf).Nodup)
    (hroom : ∀ x ∈ ws, isFull limits now w x = false) :
    ∃ w' : WindowStore τ, w'.Ordered ∧
      (∀ (next : Plan τ) (rest : List (Identifier × Tier)),
        (consumeAll limits now next (ws ++ rest)).run WindowStore.counter now w
          = (consumeAll limits now next rest).run WindowStore.counter now w') ∧
      (∀ x ∈ ws, w'.held (keyOf x) = place now (liveIn limits now w x) ∧
        w'.lastWindow? (keyOf x) = some (limits.tier x.2).window) ∧
      ∀ key ∉ ws.map keyOf, w'.buckets.get? key = w.buckets.get? key := by
  induction ws generalizing w with
  | nil => exact ⟨w, hw, fun _ _ => rfl, nofun, fun _ _ => rfl⟩
  | cons y rest ih =>
    have hsame : ∀ z ∈ rest,
        liveIn limits now (consumed limits now w y) z = liveIn limits now w z :=
      liveIn_consumed_of_nodup hkeys
    have hy := hroom y (List.mem_cons_self ..)
    have hroom' : ∀ x ∈ rest, isFull limits now (consumed limits now w y) x = false := by
      intro x hx
      rw [isFull, hsame x hx]
      exact hroom x (List.mem_cons_of_mem _ hx)
    rw [List.map_cons, List.nodup_cons] at hkeys
    obtain ⟨w', hw', hrun, hplaced, hothers⟩ := ih (ordered_consumed hw hnow y) hkeys.2 hroom'
    -- what the first call has placed is not touched by the others, and the other way round
    refine ⟨w', hw', fun next rest' => ?_, ?_, ?_⟩
    · rw [List.cons_append, run_consumeAll_step hw hnow, hy, if_neg (by decide), hrun]
    · intro x hx
      rcases List.mem_cons.mp hx with rfl | hx
      · simp only [WindowStore.held, WindowStore.lastWindow?, hothers _ hkeys.1]
        exact ⟨held_consumed_self hw hy, lastWindow?_consumed_self x⟩
      · rw [← hsame x hx]
        exact hplaced x hx
    · intro key hkey
      rw [List.map_cons, List.mem_cons, not_or] at hkey
      rw [hothers key hkey.2, get?_consumed_of_ne fun heq => hkey.1 heq.symm]

/-- The first window without room ends the request, and decides it as it was before. It is asked after
those that have room, and is the last to be asked. -/
theorem run_consumeAll_full {asked rest : List (Identifier × Tier)} {x : Identifier × Tier}
    (hw : w.Ordered) (hnow : IsTime now) (hkeys : ((asked ++ x :: rest).map keyOf).Nodup)
    (hroom : ∀ y ∈ asked, isFull limits now w y = false) (hfull : isFull limits now w x = true) :
    ∃ w' : WindowStore τ, w'.Ordered ∧
      (∀ next : Plan τ, (consumeAll limits now next (asked ++ x :: rest)).run WindowStore.counter now w
        = (consumed limits now w' x, refuse limits now w x)) ∧
      (∀ y ∈ asked, w'.held (keyOf y) = place now (liveIn limits now w y) ∧
        w'.lastWindow? (keyOf y) = some (limits.tier y.2).window) ∧
      ∀ key ∉ asked.map keyOf, w'.buckets.get? key = w.buckets.get? key := by
  rw [List.map_append, List.map_cons, List.nodup_append] at hkeys
  obtain ⟨w', hw', hrun, hplaced, hothers⟩ := run_consumeAll_room hw hnow hkeys.1 hroom
  -- `x` does not notice the calls before it, since its key is another one
  have hx : keyOf x ∉ asked.map keyOf :=
    fun hmem => hkeys.2.2 _ hmem _ (List.mem_cons_self ..) rfl
  have hsame : liveIn limits now w' x = liveIn limits now w x := liveIn_of_get?_eq (hothers _ hx)
  have hfull' : isFull limits now w' x = true := by
    rw [isFull, hsame]
    exact hfull
  refine ⟨w', hw', fun next => ?_, hplaced, hothers⟩
  rw [hrun, run_consumeAll_step hw' hnow, hfull', if_pos rfl, refuse, refuse, hsame]

/-! ## What is left -/

/-- Counting one window at `now` does not change what is inside of any. -/
theorem liveIn_current (hw : w.Ordered) (hnow : IsTime now) (x y : Identifier × Tier)
    (hwindow : keyOf x = keyOf y → (limits.tier x.2).window = (limits.tier y.2).window) :
    liveIn limits now (w.current (keyOf x) (limits.tier x.2).window now).1 y
      = liveIn limits now w y := by
  rw [liveIn, WindowStore.live, WindowStore.held_current hw]
  split
  · next heq =>
    rw [hwindow heq, WindowStore.live, Bucket.filter_isLive_filter_isLive hnow, heq]
    rfl
  · rfl

/-- The sustained windows are counted as they are, and the least room is reported. -/
theorem run_countAll (hw : w.Ordered) (hnow : IsTime now) (remaining : UInt64)
    (ids : List Identifier) :
    ((countAll limits now remaining ids).run WindowStore.counter now w).2
      = .allow
          ((ids.map fun i =>
            room limits.sustained.limit (liveIn limits now w (i, .sustained)).length).foldl
            min remaining)
          limits.sustained.limit
          (addSaturating (wholeSeconds now) limits.sustained.window) := by
  induction ids generalizing w remaining with
  | nil => rfl
  | cons i rest ih =>
    have hcount : (w.current (windowKey .sustained i) limits.sustained.window now).2
        = (liveIn limits now w (i, .sustained)).length := WindowStore.current_snd hw
    show (run _ now (w.current (windowKey .sustained i) limits.sustained.window now).1
      (countAll limits now (min remaining (room limits.sustained.limit
        (w.current (windowKey .sustained i) limits.sustained.window now).2)) rest)).2 = _
    have hsame : ∀ j, liveIn limits now
        (w.current (windowKey .sustained i) limits.sustained.window now).1 (j, .sustained)
          = liveIn limits now w (j, .sustained) :=
      fun j => liveIn_current hw hnow (i, .sustained) (j, .sustained) fun _ => rfl
    rw [ih (hw.current now _ _), hcount, List.map_cons, List.foldl_cons]
    simp only [hsame]

/-- Whatever a plan asks, the events stay in order. -/
theorem ordered_run (hw : w.Ordered) (hnow : IsTime now) (plan : Plan τ) :
    (plan.run WindowStore.counter now w).1.Ordered := by
  induction plan generalizing w with
  | done decision events => exact hw
  | consume key limit next ih => exact ih _ (hw.consume hnow _ _ _)
  | count key window next ih => exact ih _ (hw.current now _ _)

end Plan

namespace Limiter

variable {σ : Type} [SharedStore σ τ]

/-- The windows of a limiter without a shared store stay in order, even if the clock goes back. -/
theorem ordered_after {l : Limiter τ σ} (hshared : l.shared = none) (hw : l.fallback.Ordered)
    {steps : List (Step τ)} (htimes : ∀ t ∈ times steps, IsTime t) :
    (l.after steps).fallback.Ordered := by
  induction steps generalizing l with
  | nil => exact hw
  | cons step rest ih =>
    have hshared' := shared_after hshared [step]
    cases step with
    | request now ids =>
      rw [times_request] at htimes
      refine ih (l := (l.requestQuota now ids).1) hshared' ?_
        fun t ht => htimes t (List.mem_cons_of_mem _ ht)
      rw [(requestQuota_alone hshared now ids).2]
      exact Plan.ordered_run hw (htimes now (List.mem_cons_self ..)) _
    | sweep now =>
      rw [times_sweep] at htimes
      exact ih (l := (l.sweep now).1) hshared' (hw.sweep now)
        fun t ht => htimes t (List.mem_cons_of_mem _ ht)
    | close => exact ih (l := l.close) hshared' WindowStore.ordered_empty htimes

end Limiter

/-! ## Least words -/

theorem toNat_min (a b : UInt64) : (min a b).toNat = min a.toNat b.toNat := by
  show (if a ≤ b then a else b).toNat = _
  rw [min_def]
  simp only [UInt64.le_iff_toNat_le]
  split <;> rfl

/-- The least of some words is the least of their numbers. -/
theorem toNat_foldl_min (n : UInt64) (ns : List UInt64) :
    (ns.foldl min n).toNat = (ns.map UInt64.toNat).foldl min n.toNat := by
  induction ns generalizing n with
  | nil => rfl
  | cons m rest ih => rw [List.foldl_cons, ih, List.map_cons, List.foldl_cons, toNat_min]

/-- A start that is no less than any of the numbers matters only if there are none. -/
theorem foldl_min_eq_min? {n : ℕ} {ns : List ℕ} (h : ∀ m ∈ ns, m ≤ n) :
    ns.foldl min n = ns.min?.getD n := by
  cases ns with
  | nil => rfl
  | cons m rest =>
    rw [List.foldl_cons, min_eq_right (h m (List.mem_cons_self ..)), List.min?_cons',
      Option.getD_some]

/-- The room under a limit does not go below zero. -/
theorem toNat_room (limit : UInt64) (count : ℕ) :
    (Plan.room limit count).toNat = limit.toNat - count := by
  have hlt : limit.toNat - count < 2 ^ 64 := by
    have := limit.toNat_lt
    omega
  rw [Plan.room, UInt64.toNat_ofNat', Nat.mod_eq_of_lt hlt]

/-- The least room of some windows, and the whole limit if there are none. -/
theorem toNat_foldl_min_room (limit : UInt64) (ids : List Identifier) (count : Identifier → ℕ) :
    ((ids.map fun i => Plan.room limit (count i)).foldl min limit).toNat
      = ((ids.map fun i => limit.toNat - count i).min?).getD limit.toNat := by
  have hrooms : (ids.map fun i => Plan.room limit (count i)).map UInt64.toNat
      = ids.map fun i => limit.toNat - count i := by
    rw [List.map_map]
    exact List.map_congr_left fun i _ => toNat_room limit (count i)
  have hle : ∀ m ∈ ids.map fun i => limit.toNat - count i, m ≤ limit.toNat := by
    intro m hm
    obtain ⟨i, -, rfl⟩ := List.mem_map.mp hm
    exact Nat.sub_le _ _
  rw [toNat_foldl_min, hrooms, foldl_min_eq_min? hle]

/-! ## Exact decisions -/

/-- Different identifiers whose keys are different have different windows. -/
theorem nodup_keyOf_windows {ids : List Identifier} (hkeys : (ids.map Identifier.render).Nodup) :
    ((Plan.windows ids).map keyOf).Nodup := by
  have horder : Tier.order.Nodup := by decide
  have hnodup : (Plan.windows ids).Nodup := (List.Nodup.of_map _ hkeys).product horder
  refine hnodup.map_on fun x hx y hy heq => ?_
  have htier := tier_eq_of_keyOf_eq heq
  have hlist := congrArg String.toList heq
  rw [keyOf, keyOf, toList_windowKey, toList_windowKey, htier, List.append_right_inj] at hlist
  have hrender : x.1.render = y.1.render := String.toList_inj.mp (List.cons.inj hlist).2
  exact Prod.ext (List.inj_on_of_nodup_map hkeys (Plan.mem_windows.mp hx) (Plan.mem_windows.mp hy)
    hrender) htier

/-- Methods without colons are needed here: otherwise two identifiers can share a key. -/
theorem nodup_map_keyOf_windows {ids : List Identifier} (hdistinct : ids.Nodup)
    (hplain : ∀ i ∈ ids, i.HasPlainMethod) : ((Plan.windows ids).map keyOf).Nodup :=
  nodup_keyOf_windows (hdistinct.map_on fun i hi j hj heq => render_inj (hplain i hi) (hplain j hj) heq)

variable {K : Type} [Field K] [LinearOrder K] [FloorRing K]

/-- A client is never told to try again at once. -/
theorem one_le_retryAfter (oldest : Option K) (window : UInt64) (now : K) :
    1 ≤ (retryAfter oldest window now).toNat := by
  cases oldest with
  | none =>
    rw [retryAfter]
    split
    · decide
    · next hne =>
      have : window.toNat ≠ 0 := fun h => hne (UInt64.toNat_inj.mp h)
      omega
  | some entry => exact one_le_secondsUntil entry now window

namespace Limiter

variable {σ : Type}

/-- The number of events in memory that lie strictly less than a window before `now`. -/
def entries (l : Limiter K σ) (now : K) (x : Identifier × Tier) : ℕ :=
  (l.fallback.held (windowKey x.2 x.1)).countP fun t =>
    now - (l.limits.tier x.2).window.toNat < t

/-- The live events of a window are its entries. -/
theorem length_liveIn (l : Limiter K σ) (now : K) (x : Identifier × Tier) :
    (liveIn l.limits now l.fallback x).length = l.entries now x := by
  rw [liveIn, WindowStore.live, entries, ← List.countP_eq_length_filter, keyOf]
  refine List.countP_congr fun t _ => ?_
  rw [isLive_iff_lt, decide_eq_true_eq]

variable [IsStrictOrderedRing K] [SharedStore σ K] {ids : List Identifier} {now : K}

section Decision

variable {l : Limiter K σ} (hshared : l.shared = none) (hw : l.fallback.Ordered)
  (hkeys : ((Plan.windows ids).map keyOf).Nodup)

include hshared hw hkeys

/-- A request that some window has no room for is refused for the first of them. -/
theorem decision_of_full {x : Identifier × Tier}
    (hx : (Plan.windows ids).find? (isFull l.limits now l.fallback) = some x) :
    (l.requestQuota now ids).2.1 = refuse l.limits now l.fallback x := by
  obtain ⟨hfull, asked, rest, hwindows, hroom⟩ := List.find?_eq_some_iff_append.mp hx
  have hroom : ∀ y ∈ asked, isFull l.limits now l.fallback y = false := by simpa using hroom
  rw [hwindows] at hkeys
  obtain ⟨w', -, hrun, -⟩ := Plan.run_consumeAll_full hw (isTime_exact now) hkeys hroom hfull
  rw [(requestQuota_alone hshared now ids).1, Plan.ofIdentifiers, hwindows, hrun]

/-- A request that all windows have room for is allowed, and leaves in each sustained window room for
one event fewer. -/
theorem decision_of_room (hwindow : 1 ≤ l.limits.sustained.window.toNat)
    (hroom : ∀ x ∈ Plan.windows ids, isFull l.limits now l.fallback x = false) :
    (l.requestQuota now ids).2.1
      = .allow
          ((ids.map fun i =>
            Plan.room l.limits.sustained.limit (l.entries now (i, .sustained) + 1)).foldl
            min l.limits.sustained.limit)
          l.limits.sustained.limit
          (addSaturating (wholeSeconds now) l.limits.sustained.window) := by
  have htime := isTime_exact now
  obtain ⟨w', hw', hrun, hplaced, -⟩ := Plan.run_consumeAll_room hw htime hkeys hroom
  have hcounts := hrun (.countAll l.limits now l.limits.sustained.limit ids) []
  rw [List.append_nil, Plan.consumeAll] at hcounts
  have hrooms : ∀ i ∈ ids, (liveIn l.limits now w' (i, .sustained)).length
      = l.entries now (i, .sustained) + 1 := by
    intro i hi
    -- the new event is live itself, as the window is not empty
    have hlive : ∀ t ∈ liveIn l.limits now l.fallback (i, .sustained),
        Bucket.isLive l.limits.sustained.window now t = true :=
      fun t ht => (List.mem_filter.mp ht).2
    have hnow : Bucket.isLive l.limits.sustained.window now now = true := isLive_self hwindow now
    have hheld : w'.held (keyOf (i, .sustained))
        = place now (liveIn l.limits now l.fallback (i, .sustained)) :=
      (hplaced _ (Plan.mem_windows.mpr hi)).1
    calc (liveIn l.limits now w' (i, .sustained)).length
        = ((place now (liveIn l.limits now l.fallback (i, .sustained))).filter
            (Bucket.isLive l.limits.sustained.window now)).length := by
          rw [liveIn, WindowStore.live, hheld]
          rfl
      _ = ((now :: liveIn l.limits now l.fallback (i, .sustained)).filter
            (Bucket.isLive l.limits.sustained.window now)).length :=
          ((place_perm now _).filter _).length_eq
      _ = (liveIn l.limits now l.fallback (i, .sustained)).length + 1 := by
          rw [List.filter_cons_of_pos hnow, List.filter_eq_self.mpr hlive, List.length_cons]
      _ = l.entries now (i, .sustained) + 1 := by rw [length_liveIn]
  rw [(requestQuota_alone hshared now ids).1, Plan.ofIdentifiers, hcounts,
    Plan.run_countAll hw' htime, List.map_congr_left fun i hi => by rw [hrooms i hi]]

end Decision

/-- **What a request is told, exactly.** Take any state that a limiter without a shared store can
reach, with exact time and whatever order of the clock's readings, and a request for distinct
identifiers. It is allowed just when every window has room, by the number of its events before the
request. If not, the first window without room is named, the burst window of an identifier before
its sustained one. If it is, the least room of a sustained window after the request is told. -/
theorem requestQuota_exact (limits : Limits) (hwindow : 1 ≤ limits.sustained.window.toNat)
    (steps : List (Step K)) (now : K) (ids : List Identifier) (hdistinct : ids.Nodup)
    (hplain : ∀ i ∈ ids, i.HasPlainMethod) :
    let l := (start limits (none : Option σ)).after steps
    let d := (l.requestQuota now ids).2.1
    (d.allowed = true ↔
        ∀ i ∈ ids, ∀ tier, l.entries now (i, tier) < (limits.tier tier).limit.toNat) ∧
      (d.allowed = false → ∃ i tier,
        (ids.flatMap fun i => [(i, Tier.burst), (i, Tier.sustained)]).find?
            (fun x => (limits.tier x.2).limit.toNat ≤ l.entries now x) = some (i, tier) ∧
          d.denied = some ⟨tier, i⟩ ∧ d.limit = (limits.tier tier).limit ∧ d.remaining = 0 ∧
          1 ≤ d.retryAfter.toNat ∧
          d.resetEpoch.toNat = min (⌊now⌋₊ + d.retryAfter.toNat) (2 ^ 64 - 1)) ∧
      (d.allowed = true →
        d.retryAfter = 0 ∧ d.denied = none ∧ d.limit = limits.sustained.limit ∧
          d.resetEpoch.toNat = min (⌊now⌋₊ + limits.sustained.window.toNat) (2 ^ 64 - 1) ∧
          d.remaining.toNat = ((ids.map fun i =>
            limits.sustained.limit.toNat - (l.entries now (i, .sustained) + 1)).min?).getD
              limits.sustained.limit.toNat) := by
  intro l d
  have hshared : l.shared = none := shared_after rfl steps
  have hlimits : l.limits = limits := limits_after (start limits none) steps
  have hw : l.fallback.Ordered :=
    ordered_after rfl WindowStore.ordered_empty fun t _ => isTime_exact t
  have hkeys := nodup_map_keyOf_windows hdistinct hplain
  have hfull : ∀ x, isFull l.limits now l.fallback x = true
      ↔ (limits.tier x.2).limit.toNat ≤ l.entries now x := by
    intro x
    rw [isFull, decide_eq_true_eq, length_liveIn, hlimits]
  -- the request is decided by the first window without room, or by there being none
  cases hfind : (Plan.windows ids).find? (isFull l.limits now l.fallback) with
  | some x =>
    have hd : d = refuse l.limits now l.fallback x := decision_of_full hshared hw hkeys hfind
    have hdenied : d.allowed = false := by rw [hd]; rfl
    refine ⟨?_, fun _ => ⟨x.1, x.2, ?_⟩, fun hallowed => ?_⟩
    · rw [hdenied]
      refine ⟨nofun, fun hroom => ?_⟩
      have hmem := Plan.mem_windows.mp (List.mem_of_find?_eq_some hfind)
      exact absurd ((hfull x).mp (List.find?_some hfind)) (Nat.not_le.mpr (hroom x.1 hmem x.2))
    · have hfirst : (Plan.windows ids).find?
          (fun x => (limits.tier x.2).limit.toNat ≤ l.entries now x) = some x := by
        rw [← hfind]
        refine List.find?_congr fun y _ => ?_
        rw [Bool.eq_iff_iff, decide_eq_true_eq, hfull]
      rw [hd, refuse, hlimits]
      exact ⟨hfirst, rfl, rfl, rfl, one_le_retryAfter _ _ now,
        toNat_addSaturating_wholeSeconds now _⟩
    · rw [hdenied] at hallowed
      cases hallowed
  | none =>
    have hroom : ∀ x ∈ Plan.windows ids, isFull l.limits now l.fallback x = false := by
      intro x hx
      simpa using List.find?_eq_none.mp hfind x hx
    have hd := decision_of_room hshared hw hkeys (by rw [hlimits]; exact hwindow) hroom
    have hallowed : d.allowed = true := by
      show (l.requestQuota now ids).2.1.allowed = true
      rw [hd]
      rfl
    refine ⟨?_, fun hdenied => ?_, fun _ => ?_⟩
    · rw [hallowed]
      refine ⟨fun _ i hi tier => ?_, fun _ => rfl⟩
      have hnot := hroom (i, tier) (Plan.mem_windows.mpr hi)
      rw [← Bool.not_eq_true, hfull] at hnot
      exact Nat.lt_of_not_le hnot
    · rw [hallowed] at hdenied
      cases hdenied
    · have hd' : d = .allow
          ((ids.map fun i =>
            Plan.room limits.sustained.limit (l.entries now (i, .sustained) + 1)).foldl
            min limits.sustained.limit)
          limits.sustained.limit
          (addSaturating (wholeSeconds now) limits.sustained.window) := by
        rw [← hlimits]
        exact hd
      rw [hd']
      refine ⟨rfl, rfl, rfl, toNat_addSaturating_wholeSeconds now _, ?_⟩
      exact toNat_foldl_min_room limits.sustained.limit ids
        fun i => l.entries now (i, .sustained) + 1

/-- Two requests of a client, with a clock that goes back between them. -/
def setBack : List (Step ℚ) :=
  [.request 5 [.ip "a"], .sweep 7, .request 3 [.ip "a", .user "b"]]

/-- A client after the clock was set back, with the identifiers it is known by. -/
theorem requestQuota_exact_setBack :
    let l := (start ⟨⟨2, 60⟩, ⟨1, 1⟩, .ofMillis 250⟩
      (none : Option (ScriptedStore ℚ))).after setBack
    ((l.requestQuota 6 [.user "b", .endpoint "GET" "/x"]).2.1.allowed = true ∧
        (l.requestQuota 6 [.user "b", .endpoint "GET" "/x"]).2.1.remaining.toNat = 0) ∧
      (l.requestQuota 6 [.user "b", .ip "a"]).2.1.denied = some ⟨.sustained, .ip "a"⟩ ∧
        1 ≤ (l.requestQuota 6 [.user "b", .ip "a"]).2.1.retryAfter.toNat := by
  intro l
  constructor
  · have h := requestQuota_exact (σ := ScriptedStore ℚ) ⟨⟨2, 60⟩, ⟨1, 1⟩, .ofMillis 250⟩
      (by decide) setBack 6 [.user "b", .endpoint "GET" "/x"] (by decide)
      (by simp [Identifier.HasPlainMethod])
    have hallowed : (l.requestQuota 6 [.user "b", .endpoint "GET" "/x"]).2.1.allowed = true := by
      decide +kernel
    refine ⟨hallowed, (h.2.2 hallowed).2.2.2.2.trans ?_⟩
    decide +kernel
  · obtain ⟨i, tier, hfirst, hdenied, -, -, hretry, -⟩ :=
      (requestQuota_exact (σ := ScriptedStore ℚ) ⟨⟨2, 60⟩, ⟨1, 1⟩, .ofMillis 250⟩
        (by decide) setBack 6 [.user "b", .ip "a"] (by decide)
        (by simp [Identifier.HasPlainMethod])).2.1 (by decide +kernel)
    have hwindow : ([Identifier.user "b", .ip "a"].flatMap
        fun i => [(i, Tier.burst), (i, Tier.sustained)]).find?
          (fun x => ((⟨⟨2, 60⟩, ⟨1, 1⟩, .ofMillis 250⟩ : Limits).tier x.2).limit.toNat
            ≤ l.entries 6 x) = some (.ip "a", .sustained) := by decide +kernel
    rw [hwindow] at hfirst
    cases hfirst
    exact ⟨hdenied, hretry⟩

end Limiter

end AdmissionGate
