import AdmissionGate.Proofs.Quota.Isolation
import AdmissionGate.Proofs.Quota.Traffic

/-!
# What a request leaves behind

A request that is denied has been recorded in all the windows that it asked before, and nothing is
taken back. A request that is admitted goes over its sustained windows a second time. In both cases it
leaves as much behind as it has to: one event in each window that had room, and nothing else but what
pruning does.

* `Visited`: a window that was asked, and what it holds from then on.
* `Plan.run_countAll_of_live`: the second pass over windows that hold live events only changes nothing.
* `Plan.visited_of_room`, `Plan.visited_of_full`: the windows after a request, where all windows have
  room and where one has none.
* `Limiter.requestQuota_footprint`: the same of the states that a limiter without a shared store can
  reach, with exact time.
-/

namespace AdmissionGate

open Instant

variable {τ : Type} [Instant τ] {limits : Limits} {now : τ} {w : WindowStore τ}

/-- A window that a request has asked for room holds `events` from then on. It is as long as its tier
says, and was so before. -/
structure Visited (limits : Limits) (before after : WindowStore τ) (x : Identifier × Tier)
    (events : List τ) : Prop where
  held : after.held (keyOf x) = events
  window : after.lastWindow? (keyOf x) = some (limits.tier x.2).window
  before : ∀ window, before.lastWindow? (keyOf x) = some window → window = (limits.tier x.2).window

omit [Instant τ] in
/-- What was done to a window can be told from its bucket alone. -/
theorem Visited.congr {before after after' : WindowStore τ} {x : Identifier × Tier} {events : List τ}
    (h : Visited limits before after x events) (hheld : after'.held (keyOf x) = after.held (keyOf x))
    (hlast : after'.lastWindow? (keyOf x) = after.lastWindow? (keyOf x)) :
    Visited limits before after' x events :=
  ⟨hheld.trans h.held, hlast.trans h.window, h.before⟩

/-! ## The second pass -/

/-- Counting a window that holds live events only leaves all windows as they are. -/
theorem WindowStore.current_of_live [LawfulInstant τ] (hw : w.Ordered) {key : String}
    {window : UInt64} (hlive : ∀ t ∈ w.held key, Bucket.isLive window now t = true)
    (hlast : w.lastWindow? key = some window) (key' : String) :
    (w.current key window now).1.held key' = w.held key' ∧
      (w.current key window now).1.lastWindow? key' = w.lastWindow? key' := by
  constructor
  · rw [held_current hw]
    split
    · next heq => rw [live, List.filter_eq_self.mpr hlive, heq]
    · rfl
  · rw [lastWindow?_current]
    split
    · next heq => rw [← heq, hlast, Option.map_some]
    · rfl

namespace Plan

/-- The windows of a request that has been admitted are counted as they are. -/
theorem run_countAll_of_live [LawfulInstant τ] (hw : w.Ordered) {ids : List Identifier}
    (hlive : ∀ i ∈ ids, ∀ t ∈ w.held (keyOf (i, .sustained)),
      Bucket.isLive limits.sustained.window now t = true)
    (hlast : ∀ i ∈ ids, w.lastWindow? (keyOf (i, .sustained)) = some limits.sustained.window)
    (remaining : UInt64) (key : String) :
    ((countAll limits now remaining ids).run WindowStore.counter now w).1.held key = w.held key ∧
      ((countAll limits now remaining ids).run WindowStore.counter now w).1.lastWindow? key
        = w.lastWindow? key := by
  induction ids generalizing w remaining with
  | nil => exact ⟨rfl, rfl⟩
  | cons i rest ih =>
    have hsame := WindowStore.current_of_live hw (hlive i (List.mem_cons_self ..))
      (hlast i (List.mem_cons_self ..))
    have hrest := ih (hw.current now (keyOf (i, .sustained)) limits.sustained.window)
      (fun j hj => by
        rw [(hsame _).1]
        exact hlive j (List.mem_cons_of_mem _ hj))
      (fun j hj => by
        rw [(hsame _).2]
        exact hlast j (List.mem_cons_of_mem _ hj))
      (min remaining (room limits.sustained.limit
        (w.current (keyOf (i, .sustained)) limits.sustained.window now).2))
    exact ⟨hrest.1.trans (hsame key).1, hrest.2.trans (hsame key).2⟩

/-- Counting asks for sustained windows only. -/
theorem staysIn_countAll {keys : Set String} {ids : List Identifier} (remaining : UInt64)
    (hids : ∀ i ∈ ids, windowKey .sustained i ∈ keys) :
    (countAll limits now remaining ids).StaysIn keys := by
  induction ids generalizing remaining with
  | nil => exact trivial
  | cons i rest ih =>
    exact ⟨hids i (List.mem_cons_self ..), fun n => ih _ fun j hj => hids j (List.mem_cons_of_mem _ hj)⟩

/-! ## The windows after a request -/

variable [LawfulInstant τ] {ids : List Identifier}

/-- A request that all windows have room for is recorded once in each of them. -/
theorem visited_of_room (hreach : Reachable limits w) (hnow : IsTime now)
    (hkeys : ((windows ids).map keyOf).Nodup)
    (hself : Bucket.isLive limits.sustained.window now now = true)
    (hroom : ∀ x ∈ windows ids, isFull limits now w x = false) :
    let w' := ((ofIdentifiers limits now ids).run WindowStore.counter now w).1
    (∀ x ∈ windows ids, Visited limits w w' x (place now (liveIn limits now w x))) ∧
      ∀ key ∉ (windows ids).map keyOf, w'.buckets.get? key = w.buckets.get? key := by
  intro w'
  obtain ⟨asked, hordered, hrun, hplaced, hothers⟩ :=
    run_consumeAll_room hreach.ordered hnow hkeys hroom
  have hcounted := hrun (countAll limits now limits.sustained.limit ids) []
  rw [List.append_nil, consumeAll] at hcounted
  have hw' : w' = ((countAll limits now limits.sustained.limit ids).run WindowStore.counter now
      asked).1 := congrArg Prod.fst hcounted
  have hsustained : ∀ i ∈ ids, (i, Tier.sustained) ∈ windows ids := fun i hi => mem_windows.mpr hi
  -- the second pass finds what the first one has left, and nothing that has to go
  have hlive : ∀ i ∈ ids, ∀ t ∈ asked.held (keyOf (i, .sustained)),
      Bucket.isLive limits.sustained.window now t = true := by
    intro i hi t ht
    rw [(hplaced _ (hsustained i hi)).1, (place_perm now _).mem_iff, List.mem_cons] at ht
    rcases ht with rfl | ht
    · exact hself
    · exact (List.mem_filter.mp ht).2
  have hsame := run_countAll_of_live hordered hlive
    (fun i hi => (hplaced _ (hsustained i hi)).2) limits.sustained.limit
  rw [hw']
  refine ⟨fun x hx => ?_, fun key hkey => ?_⟩
  · obtain ⟨hheld, hlast⟩ := hplaced x hx
    have hbefore : ∀ window, w.lastWindow? (keyOf x) = some window →
        window = (limits.tier x.2).window := by
      intro window hwindow
      rw [hreach.lastWindow hwindow, keyOf, windowOf_windowKey]
    exact Visited.congr ⟨hheld, hlast, hbefore⟩ (hsame _).1 (hsame _).2
  · have hstays : (countAll limits now limits.sustained.limit ids).StaysIn ({key} : Set String)ᶜ :=
      staysIn_countAll _ fun i hi heq =>
        hkey (List.mem_map.mpr ⟨_, hsustained i hi, Set.mem_singleton_iff.mp heq⟩)
    rw [agreeOn_run asked now hstays key (Set.mem_singleton key), hothers key hkey]

/-- A request that some window has no room for is recorded in those asked before, and the windows
behind it are not asked. -/
theorem visited_of_full {asked rest : List (Identifier × Tier)} {x : Identifier × Tier}
    (hreach : Reachable limits w) (hnow : IsTime now)
    (hwindows : windows ids = asked ++ x :: rest)
    (hkeys : ((windows ids).map keyOf).Nodup)
    (hroom : ∀ y ∈ asked, isFull limits now w y = false) (hfull : isFull limits now w x = true) :
    let w' := ((ofIdentifiers limits now ids).run WindowStore.counter now w).1
    (∀ y ∈ asked, Visited limits w w' y (place now (liveIn limits now w y))) ∧
      Visited limits w w' x (liveIn limits now w x) ∧
      ∀ key ∉ (asked ++ [x]).map keyOf, w'.buckets.get? key = w.buckets.get? key := by
  intro w'
  rw [hwindows] at hkeys
  obtain ⟨before, hordered, hrun, hplaced, hothers⟩ :=
    run_consumeAll_full hreach.ordered hnow hkeys hroom hfull
  have hw' : w' = consumed limits now before x := by
    show ((ofIdentifiers limits now ids).run WindowStore.counter now w).1 = _
    rw [ofIdentifiers, hwindows, hrun]
  rw [List.map_append, List.map_cons, List.nodup_append] at hkeys
  have hx : keyOf x ∉ asked.map keyOf :=
    fun hmem => hkeys.2.2 _ hmem _ (List.mem_cons_self ..) rfl
  have hsame : liveIn limits now before x = liveIn limits now w x := liveIn_of_get?_eq (hothers _ hx)
  have hwindow : ∀ (y : Identifier × Tier) (window : UInt64),
      w.lastWindow? (keyOf y) = some window → window = (limits.tier y.2).window := by
    intro y window hwindow
    rw [hreach.lastWindow hwindow, keyOf, windowOf_windowKey]
  rw [hw']
  refine ⟨fun y hy => ?_, ⟨?_, lastWindow?_consumed_self x, hwindow x⟩, fun key hkey => ?_⟩
  · have hne : keyOf x ≠ keyOf y := fun heq => hx (heq ▸ List.mem_map_of_mem hy)
    obtain ⟨hheld, hlast⟩ := hplaced y hy
    refine Visited.congr ⟨hheld, hlast, hwindow y⟩ (held_consumed_of_ne hne) ?_
    rw [WindowStore.lastWindow?, get?_consumed_of_ne hne, WindowStore.lastWindow?]
  · have hfull' : isFull limits now before x = true := by
      rw [isFull, hsame]
      exact hfull
    rw [held_consumed_full hordered hfull', hsame]
  · rw [List.map_append, List.mem_append, not_or] at hkey
    have hne : keyOf x ≠ key := fun heq => hkey.2 (by rw [heq.symm]; exact List.mem_singleton_self _)
    rw [get?_consumed_of_ne hne, hothers key hkey.1]

end Plan

namespace Limiter

variable {K σ : Type} [Field K] [LinearOrder K] [IsStrictOrderedRing K] [FloorRing K]
  [SharedStore σ K]

/-- **What a request leaves behind, exactly.** Take any state that a limiter without a shared store can
reach, with exact time, and a request for identifiers with different keys. If it is admitted, each
burst and each sustained window of its identifiers holds `now` once more. If it is denied, so do the
windows that were asked before the one that denies it; that one holds nothing new. In all of these
windows the events up to `now - window` are gone, and every other bucket, those of the windows that
were not asked among them, is left exactly as it was. -/
theorem requestQuota_footprint (limits : Limits) (hwindow : 1 ≤ limits.sustained.window.toNat)
    (steps : List (Step K)) (now : K) (ids : List Identifier)
    (hkeys : (ids.map Identifier.render).Nodup) :
    let l := (start limits (none : Option σ)).after steps
    let d := (l.requestQuota now ids).2.1
    let before := l.fallback
    let after := (l.requestQuota now ids).1.fallback
    let windows := ids.flatMap fun i => [(i, Tier.burst), (i, Tier.sustained)]
    let kept := fun x : Identifier × Tier =>
      (before.held (keyOf x)).filter (now - (limits.tier x.2).window.toNat < ·)
    (d.allowed = true →
      (∀ x ∈ windows, Visited limits before after x (place now (kept x))) ∧
        ∀ key ∉ windows.map keyOf, after.buckets.get? key = before.buckets.get? key) ∧
    (d.allowed = false → ∃ asked i tier rest,
      windows = asked ++ (i, tier) :: rest ∧ d.denied = some ⟨tier, i⟩ ∧
        (∀ y ∈ asked, Visited limits before after y (place now (kept y))) ∧
        Visited limits before after (i, tier) (kept (i, tier)) ∧
        (∀ y ∈ rest, after.buckets.get? (keyOf y) = before.buckets.get? (keyOf y)) ∧
        ∀ key ∉ (asked ++ [(i, tier)]).map keyOf,
          after.buckets.get? key = before.buckets.get? key) := by
  intro l d before after windows kept
  have hshared : l.shared = none := shared_after rfl steps
  have hlimits : l.limits = limits := limits_after (start limits none) steps
  have hnow : IsTime now := isTime_exact now
  have hreach : Reachable limits before :=
    reachable_after (l := start limits none) rfl .refl fun t _ => isTime_exact t
  have hnodup : (windows.map keyOf).Nodup := nodup_keyOf_windows hkeys
  have hkept : ∀ x, liveIn limits now before x = kept x := by
    intro x
    refine List.filter_congr fun t _ => ?_
    rw [Bool.eq_iff_iff, isLive_iff_lt, decide_eq_true_eq]
  obtain ⟨hdecision, hafter⟩ := requestQuota_alone hshared now ids
  rw [hlimits] at hdecision hafter
  have hafter : after
      = ((Plan.ofIdentifiers limits now ids).run WindowStore.counter now before).1 := by
    show (l.requestQuota now ids).1.fallback = _
    rw [hafter]
  -- the request is decided by the first window without room, or by there being none
  cases hfind : windows.find? (isFull limits now before) with
  | none =>
    have hroom : ∀ x ∈ windows, isFull limits now before x = false := by
      intro x hx
      simpa using List.find?_eq_none.mp hfind x hx
    have hd := decision_of_room hshared hreach.ordered hnodup (by rw [hlimits]; exact hwindow)
      (by rw [hlimits]; exact hroom)
    have hvisited := Plan.visited_of_room hreach hnow hnodup (isLive_self hwindow now) hroom
    simp only [hkept, ← hafter] at hvisited
    refine ⟨fun _ => hvisited, fun hdenied => ?_⟩
    rw [show d.allowed = true from congrArg Decision.allowed hd] at hdenied
    cases hdenied
  | some x =>
    obtain ⟨hfull, asked, rest, hwindows, hroom⟩ := List.find?_eq_some_iff_append.mp hfind
    have hroom : ∀ y ∈ asked, isFull limits now before y = false := by simpa using hroom
    have hd : d = refuse l.limits now before x :=
      decision_of_full hshared hreach.ordered hnodup (by rw [hlimits]; exact hfind)
    obtain ⟨hasked, hx, hothers⟩ :=
      Plan.visited_of_full hreach hnow hwindows hnodup hroom hfull
    simp only [hkept, ← hafter] at hasked hx hothers
    refine ⟨fun hallowed => ?_, fun _ => ⟨asked, x.1, x.2, rest, hwindows, ?_, hasked, hx, ?_, hothers⟩⟩
    · rw [hd] at hallowed
      cases hallowed
    · rw [hd]
      rfl
    · -- what comes behind the window without room has other keys than all that were asked
      intro y hy
      refine hothers _ fun hmem => ?_
      rw [hwindows, List.append_cons, List.map_append, List.nodup_append] at hnodup
      exact hnodup.2.2 _ hmem _ (List.mem_map_of_mem hy) rfl

/-- A request that has room everywhere, and one that does not, after the clock was set back. -/
theorem requestQuota_footprint_setBack :
    let l := (start ⟨⟨2, 60⟩, ⟨1, 1⟩, .ofMillis 250⟩ (none : Option (ScriptedStore ℚ))).after setBack
    let admitted := (l.requestQuota 6 [.user "b"]).1.fallback
    let denied := (l.requestQuota 6 [.user "b", .ip "a", .user "c"]).1.fallback
    admitted.held "sustained:user:b" = [3, 6] ∧
      denied.held "sustained:user:b" = [3, 6] ∧ denied.held "burst:ip:a" = [6] ∧
      denied.held "sustained:ip:a" = [3, 5] ∧ denied.buckets.get? "burst:user:c" = none := by
  intro l admitted denied
  constructor
  · have h := requestQuota_footprint (σ := ScriptedStore ℚ) ⟨⟨2, 60⟩, ⟨1, 1⟩, .ofMillis 250⟩
      (by decide) setBack 6 [.user "b"] (by decide)
    have hallowed : (l.requestQuota 6 [.user "b"]).2.1.allowed = true := by decide +kernel
    refine (((h.1 hallowed).1 (.user "b", .sustained) (by decide)).held).trans ?_
    decide +kernel
  · have h := requestQuota_footprint (σ := ScriptedStore ℚ) ⟨⟨2, 60⟩, ⟨1, 1⟩, .ofMillis 250⟩
      (by decide) setBack 6 [.user "b", .ip "a", .user "c"] (by decide)
    have hdenied : (l.requestQuota 6 [.user "b", .ip "a", .user "c"]).2.1.denied
        = some ⟨.sustained, .ip "a"⟩ := by decide +kernel
    obtain ⟨asked, i, tier, rest, hwindows, hfull, hasked, hx, hrest, -⟩ := h.2 (by decide +kernel)
    obtain ⟨rfl, rfl⟩ : tier = .sustained ∧ i = .ip "a" := by simpa using hfull.symm.trans hdenied
    -- the fourth of the six windows is the one without room
    obtain ⟨rfl, rfl⟩ : asked = [(.user "b", .burst), (.user "b", .sustained), (.ip "a", .burst)] ∧
        rest = [(.user "c", .burst), (.user "c", .sustained)] := by
      simpa [List.cons_eq_append_iff] using hwindows
    refine ⟨(hasked (.user "b", .sustained) (by decide)).held.trans ?_,
      (hasked (.ip "a", .burst) (by decide)).held.trans ?_, hx.held.trans ?_,
      (hrest (.user "c", .burst) (by decide)).trans ?_⟩ <;> decide +kernel

end Limiter

end AdmissionGate
