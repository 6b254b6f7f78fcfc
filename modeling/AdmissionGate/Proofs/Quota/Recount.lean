import AdmissionGate.Proofs.Quota.Decide
import AdmissionGate.Proofs.Shared.Sliding

/-!
# What is left after a request

A request that is admitted counts its sustained windows once more, after it has been recorded in them.
So what it is told is left should leave room for the request itself. But the windows that are counted
need not be those in which it was recorded: the shared store can fail in between.

A call that fails before the counting does no harm, because the last window that was asked for room is
then one in memory, and is counted there. Nor does one that fails after the first count, which the
shared store has answered. This leaves one call (`Limiter.RecountLost`), after whose failure the
windows in memory are counted as they were before the request.

* `Limiter.Sound.after`: after any steps the windows in memory are in order, and the shared store holds
  some events.
* `Limiter.Session.exists_recorded`: where a request has been recorded once it has found room.
* `Limiter.remaining_lt`: what it is told then. In `Limiter.remaining_full` the one call fails.
-/

namespace AdmissionGate

open Instant

section Order

variable {τ : Type} [Instant τ]

/-- What is reported can only get less with every window that is counted. -/
theorem Plan.ends_countAll (limits : Limits) (now : τ) (remaining : UInt64)
    (ids : List Identifier) :
    (countAll limits now remaining ids).Ends fun d _ => d.remaining.toNat ≤ remaining.toNat := by
  induction ids generalizing remaining with
  | nil => exact le_rfl
  | cons i rest ih =>
    intro n
    refine (ih _).mono fun d _ h => h.trans ?_
    rw [toNat_min]
    exact min_le_left _ _

/-- An event for which there was room is held. -/
theorem WindowStore.mem_held_of_allowed [LawfulInstant τ] {w : WindowStore τ} {key : String}
    {limit window : UInt64} {now : τ} (hw : w.Ordered) (hnow : IsTime now)
    (hallowed : (w.consume key limit window now).2.allowed = true) :
    now ∈ (w.consume key limit window now).1.held key := by
  rw [held_consume_of_allowed hw hnow hallowed]
  exact (place_perm now _).mem_iff.mpr (List.mem_cons_self ..)

/-- The last window that a request asks for is the sustained one of its last identifier. -/
theorem Plan.getLast?_windows (ids : List Identifier) (i : Identifier) :
    (windows (ids ++ [i])).getLast? = some (i, .sustained) := by
  rw [windows, List.flatMap_append, List.getLast?_append]
  rfl

end Order

namespace Limiter.Session

variable {τ σ : Type} [Instant τ] [SharedStore σ τ]

/-- Asks a window for room. -/
def askRoom (s : Session τ σ) (limits : Limits) (now : τ) (x : Identifier × Tier) :
    Session τ σ × WindowOutcome τ :=
  s.call .consume
    (SharedStore.consume · (keyOf x) (limits.tier x.2).limit (limits.tier x.2).window now)
    (·.consume (keyOf x) (limits.tier x.2).limit (limits.tier x.2).window now)

/-- Counts the sustained window of an identifier. -/
def recount (s : Session τ σ) (limits : Limits) (now : τ) (i : Identifier) : Session τ σ × Nat :=
  s.call .count (SharedStore.count · (windowKey .sustained i) limits.sustained.window now)
    (·.current (windowKey .sustained i) limits.sustained.window now)

variable {s : Session τ σ} {limits : Limits} {now : τ}

/-- A request asks its first window, and goes on if that has room. -/
theorem run_consumeAll_cons (next : Plan τ) (x : Identifier × Tier)
    (rest : List (Identifier × Tier)) :
    run now s (.consumeAll limits now next (x :: rest))
      = run now (s.askRoom limits now x).1
          (if (s.askRoom limits now x).2.allowed then .consumeAll limits now next rest
            else .denial limits now x.2 x.1 (s.askRoom limits now x).2) := rfl

/-- A request counts its first window, and goes on with the least room so far. -/
theorem run_countAll_cons (remaining : UInt64) (i : Identifier) (rest : List Identifier) :
    run now s (.countAll limits now remaining (i :: rest))
      = run now (s.recount limits now i).1
          (.countAll limits now
            (min remaining (Plan.room limits.sustained.limit (s.recount limits now i).2)) rest) := rfl

/-- Asking for room is one call, answered by either store. -/
theorem answered_askRoom (hidle : s.meanwhile = unchanged) (x : Identifier × Tier) :
    Answered s
      (SharedStore.consume · (keyOf x) (limits.tier x.2).limit (limits.tier x.2).window now)
      (·.consume (keyOf x) (limits.tier x.2).limit (limits.tier x.2).window now)
      (s.askRoom limits now x) := answered_call hidle ..

theorem answered_recount (hidle : s.meanwhile = unchanged) (i : Identifier) :
    Answered s (SharedStore.count · (windowKey .sustained i) limits.sustained.window now)
      (·.current (windowKey .sustained i) limits.sustained.window now)
      (s.recount limits now i) := answered_call hidle ..

end Limiter.Session

variable {K : Type} [Field K] [LinearOrder K] [IsStrictOrderedRing K] [FloorRing K]

/-- An event is in its own window. -/
theorem one_le_length_live {window : UInt64} (hwindow : 1 ≤ window.toNat) {now : K} {held : List K}
    (hmem : now ∈ held) : 1 ≤ (held.filter (Bucket.isLive window now)).length :=
  List.length_pos_of_mem (List.mem_filter.mpr ⟨hmem, isLive_self hwindow now⟩)

namespace Limiter

variable {σ : Type} [SharedStore σ K] {C : SharedWindows σ K}

/-! ## What every step keeps -/

/-- The windows in memory are in order, and the shared store, if there is one, holds some events. -/
structure Sound (C : SharedWindows σ K) (l : Limiter K σ) : Prop where
  ordered : l.fallback.Ordered
  holds : ∀ store, l.shared = some store → ∃ L, C.Holds store L

namespace Session

variable {s : Session K σ} {now : K}

omit [IsStrictOrderedRing K] in
/-- A call that keeps either store as it should be keeps the limiter so. -/
theorem sound_call {α : Type} (h : Sound C s.limiter) (hidle : s.meanwhile = unchanged)
    (operation : StoreOperation) {shared : σ → σ × Reply α}
    {own : WindowStore K → WindowStore K × α}
    (hshared : ∀ store L, C.Holds store L → ∃ L', C.Holds (shared store).1 L')
    (hown : ∀ w : WindowStore K, w.Ordered → (own w).1.Ordered) :
    Sound C (s.call operation shared own).1.limiter := by
  have hcall := answered_call hidle operation shared own
  have hkept : ∀ store, s.limiter.shared = some store → ∃ L, C.Holds (shared store).1 L := by
    intro store hs
    obtain ⟨L, hL⟩ := h.holds store hs
    exact hshared store L hL
  generalize s.call operation shared own = r at hcall
  cases hcall with
  | alone halone => exact ⟨hown _ h.ordered, h.holds⟩
  | @shared store a s' hs ha hasked =>
    refine ⟨?_, fun store' hstore' => ?_⟩
    · rw [hasked.fallback]
      exact h.ordered
    · rw [hasked.shared] at hstore'
      rw [← Option.some.inj hstore']
      exact hkept store hs
  | @failed store s' hs hno hasked =>
    refine ⟨?_, fun store' hstore' => ?_⟩
    · show (own s'.limiter.fallback).1.Ordered
      rw [hasked.fallback]
      exact hown _ h.ordered
    · have hstore : s'.limiter.shared = some store' := hstore'
      rw [hasked.shared] at hstore
      rw [← Option.some.inj hstore]
      exact hkept store hs

theorem sound_consume (h : Sound C s.limiter) (hidle : s.meanwhile = unchanged) (now : K)
    (key : String) (limit window : UInt64) :
    Sound C (s.call .consume (SharedStore.consume · key limit window now)
      (·.consume key limit window now)).1.limiter :=
  sound_call h hidle .consume
    (fun _ _ hL => C.holds_consume hL (isTime_exact now) key limit window)
    fun _ hw => hw.consume (isTime_exact now) key limit window

/-- A whole plan keeps both stores as they should be. -/
theorem sound_run (h : Sound C s.limiter) (hidle : s.meanwhile = unchanged) (now : K)
    (plan : Plan K) : Sound C (run now s plan).1.limiter := by
  induction plan generalizing s with
  | done decision events => exact h
  | consume key limit next ih =>
    have hcall := limits_call hidle .consume
      (SharedStore.consume · key limit.limit limit.window now)
      (·.consume key limit.limit limit.window now)
    exact ih _ (sound_consume h hidle now key limit.limit limit.window) hcall.2
  | count key window next ih =>
    have hcall := limits_call hidle .count (SharedStore.count · key window now)
      (·.current key window now)
    refine ih _ (sound_call h hidle .count (fun _ _ hL => ?_) fun _ hw => ?_) hcall.2
    · obtain ⟨⟨L', -, hL'⟩, -⟩ := C.count key window hL (isTime_exact now)
      exact ⟨L', hL'⟩
    · exact hw.current now key window

end Session

theorem Sound.step {l : Limiter K σ} (h : Sound C l) (step : Step K) : Sound C (l.step step) := by
  cases step with
  | request now ids =>
    exact Session.sound_run (s := ⟨l, unchanged, l.shared.isSome, []⟩) h rfl now _
  | sweep now => exact ⟨h.ordered.sweep now, h.holds⟩
  | close =>
    refine ⟨WindowStore.ordered_empty, fun store hstore => ?_⟩
    obtain ⟨store', hstore', rfl⟩ := Option.map_eq_some_iff.mp hstore
    obtain ⟨L, hL⟩ := h.holds store' hstore'
    exact C.close hL

/-- Whatever is done with a limiter, its windows in memory stay in order, and its shared store holds
some events. -/
theorem Sound.after {l : Limiter K σ} (h : Sound C l) (steps : List (Step K)) :
    Sound C (l.after steps) := by
  induction steps generalizing l with
  | nil => exact h
  | cons step rest ih => exact ih (h.step step)

/-! ## Where a request is recorded -/

namespace Session

variable {s : Session K σ} {now : K} {limits : Limits} {fallback : WindowStore K}
  {asked : List (Identifier × Tier)}

/-- Where a request is recorded after some windows had room for it: in the shared store, with the
windows in memory as they were, or in memory, and then so is the last of them at least. -/
inductive Recorded (C : SharedWindows σ K) (now : K) (fallback : WindowStore K)
    (asked : List (Identifier × Tier)) (s : Session K σ) : Prop where
  | shared {store : σ} {L : EventLog K} (huse : s.useShared = true)
      (hs : s.limiter.shared = some store) (hL : C.Holds store L)
      (hsame : s.limiter.fallback = fallback)
      (hmem : ∀ i, (i, Tier.sustained) ∈ asked → now ∈ L (windowKey .sustained i))
  | inMemory (halone : s.Alone)
      (hmem : ∀ x ∈ asked.getLast?, now ∈ s.limiter.fallback.held (keyOf x))

/-- One more window that has room. -/
theorem Recorded.askRoom (h : Recorded C now fallback asked s) (hsound : Sound C s.limiter)
    (hidle : s.meanwhile = unchanged) (hwindow : 1 ≤ limits.sustained.window.toNat)
    (x : Identifier × Tier) (hallowed : (s.askRoom limits now x).2.allowed = true) :
    Recorded C now fallback (asked ++ [x]) (s.askRoom limits now x).1 := by
  have hnow := isTime_exact now
  cases h with
  | inMemory halone hmem =>
    rw [Session.askRoom, call_alone halone] at hallowed ⊢
    refine .inMemory halone fun y hy => ?_
    rw [List.getLast?_concat] at hy
    cases hy
    exact WindowStore.mem_held_of_allowed hsound.ordered hnow hallowed
  | @shared store L huse hs hL hsame hmem =>
    have hcall : Answered s _ _ (s.askRoom limits now x) := answered_askRoom hidle x
    generalize s.askRoom limits now x = r at hallowed hcall ⊢
    rcases hcall.of_shared huse hs with ⟨ha, hasked⟩ | ⟨s', hno, hasked, rfl⟩
    · obtain ⟨-, L', htrims, hL'⟩ := C.consume_answer _ _ _ hL hnow ha
      rw [hallowed, if_pos rfl] at hL'
      refine .shared hasked.useShared hasked.shared hL' (hasked.fallback.trans hsame) fun i hi => ?_
      rcases List.mem_append.mp hi with hi | hi
      · -- it stays in a window that is asked for again
        refine EventLog.mem_add_of_mem (htrims.mem (hmem i hi) fun hkey => ?_)
        rw [show x.2 = .sustained from tier_eq_of_keyOf_eq (y := (i, .sustained)) hkey]
        exact isLive_self hwindow now
      · obtain rfl := List.mem_singleton.mp hi
        exact EventLog.mem_add_self L' _ now
    · have hordered : s'.limiter.fallback.Ordered := by
        rw [hasked.fallback]
        exact hsound.ordered
      refine .inMemory (.inl hasked.useShared) fun y hy => ?_
      rw [List.getLast?_concat] at hy
      cases hy
      exact WindowStore.mem_held_of_allowed hordered hnow hallowed

/-- **A request that finds room in all of its windows is recorded**, in the same way whatever it does
next. -/
theorem exists_recorded (h : Recorded C now fallback asked s) (hsound : Sound C s.limiter)
    (hidle : s.meanwhile = unchanged) (hwindow : 1 ≤ limits.sustained.window.toNat)
    {next : Plan K} {ws : List (Identifier × Tier)}
    (hallowed : (run now s (.consumeAll limits now next ws)).2.allowed = true) :
    ∃ s', (∀ next, run now s (.consumeAll limits now next ws) = run now s' next) ∧
      s'.meanwhile = unchanged ∧ Sound C s'.limiter ∧
      Recorded C now fallback (asked ++ ws) s' := by
  induction ws generalizing s asked with
  | nil =>
    rw [List.append_nil]
    exact ⟨s, fun _ => rfl, hidle, hsound, h⟩
  | cons x rest ih =>
    rw [run_consumeAll_cons] at hallowed
    -- a window without room ends the request
    cases hroom : (s.askRoom limits now x).2.allowed with
    | false =>
      rw [hroom] at hallowed
      cases hallowed
    | true =>
      rw [hroom, if_pos rfl] at hallowed
      have hidle' : (s.askRoom limits now x).1.meanwhile = unchanged := (limits_call hidle ..).2
      have hsound' : Sound C (s.askRoom limits now x).1.limiter := sound_consume hsound hidle ..
      obtain ⟨s', hs', hafter⟩ :=
        ih (h.askRoom hsound hidle hwindow x hroom) hsound' hidle' hallowed
      rw [List.append_assoc] at hafter
      refine ⟨s', fun next => ?_, hafter⟩
      rw [run_consumeAll_cons, hroom, if_pos rfl, hs']

/-! ## What is counted -/

/-- A session that counts its windows in memory reports the least room among them. -/
theorem remaining_of_alone (h : s.Alone) (hw : s.limiter.fallback.Ordered) (ids : List Identifier) :
    (run now s (.countAll limits now limits.sustained.limit ids)).2.remaining.toNat
      = ((ids.map fun i => limits.sustained.limit.toNat
          - (liveIn limits now s.limiter.fallback (i, .sustained)).length).min?).getD
            limits.sustained.limit.toNat := by
  rw [(run_alone h now _).1, Plan.run_countAll hw (isTime_exact now)]
  exact toNat_foldl_min_room limits.sustained.limit ids
    fun i => (liveIn limits now s.limiter.fallback (i, .sustained)).length

/-- The shared store is asked to count a window, and does not answer. -/
def CountFails (s : Session K σ) (key : String) (window : UInt64) (now : K) : Prop :=
  s.useShared = true ∧ ∃ store, s.limiter.shared = some store ∧
    ∀ n, (SharedStore.count store key window now).2 ≠ .answer n

omit [IsStrictOrderedRing K] in
/-- If the first count fails, then all windows are counted in memory. -/
theorem run_countAll_of_fails {i : Identifier} {rest : List Identifier} {remaining : UInt64}
    (hidle : s.meanwhile = unchanged)
    (hfails : s.CountFails (windowKey .sustained i) limits.sustained.window now) :
    ∃ s', s'.Alone ∧ s'.limiter.fallback = s.limiter.fallback ∧
      run now s (.countAll limits now remaining (i :: rest))
        = run now s' (.countAll limits now remaining (i :: rest)) := by
  obtain ⟨huse, store, hs, hno⟩ := hfails
  have hcall : Answered s _ _ (s.recount limits now i) := answered_recount hidle i
  rw [run_countAll_cons]
  generalize s.recount limits now i = r at hcall ⊢
  rcases hcall.of_shared huse hs with ⟨ha, -⟩ | ⟨s', -, hasked, rfl⟩
  · exact absurd ha (hno _)
  · have halone : s'.Alone := .inl hasked.useShared
    refine ⟨s', halone, hasked.fallback, ?_⟩
    rw [run_countAll_cons, recount, call_alone halone]

/-- If the shared store counts a window in which the request was recorded, the request is told less
than the limit. -/
theorem remaining_lt_of_counted {i : Identifier} {rest : List Identifier} {store : σ} {L : EventLog K}
    (hlimit : 1 ≤ limits.sustained.limit.toNat) (hwindow : 1 ≤ limits.sustained.window.toNat)
    (hidle : s.meanwhile = unchanged) (huse : s.useShared = true)
    (hs : s.limiter.shared = some store) (hL : C.Holds store L)
    (hmem : now ∈ L (windowKey .sustained i))
    (hcounts : ¬ s.CountFails (windowKey .sustained i) limits.sustained.window now) :
    (run now s (.countAll limits now limits.sustained.limit (i :: rest))).2.remaining.toNat
      < limits.sustained.limit.toNat := by
  have hcall : Answered s _ _ (s.recount limits now i) := answered_recount hidle i
  rw [run_countAll_cons]
  generalize s.recount limits now i = r at hcall ⊢
  rcases hcall.of_shared huse hs with ⟨ha, -⟩ | ⟨s', hno, -, -⟩
  · have hcount : 1 ≤ r.2 := by
      rw [(C.count _ _ hL (isTime_exact now)).2 _ ha]
      exact one_le_length_live hwindow hmem
    obtain ⟨_, hle⟩ := decision_run (Plan.ends_countAll limits now
      (min limits.sustained.limit (Plan.room limits.sustained.limit r.2)) rest) now r.1
    rw [toNat_min, toNat_room] at hle
    omega
  · exact absurd ⟨huse, store, hs, hno⟩ hcounts

end Session

/-- A request once it has asked its windows for room. -/
def asked (l : Limiter K σ) (now : K) (ids : List Identifier) : Session K σ :=
  (Session.run now ⟨l, unchanged, l.shared.isSome, []⟩
    (.consumeAll l.limits now (.done (.allow 0 0 0) []) (Plan.windows ids))).1

/-- The first call of a request that fails is the first one of those that count. -/
def RecountLost (l : Limiter K σ) (now : K) (ids : List Identifier) : Prop :=
  ∃ i ∈ ids.head?,
    (l.asked now ids).CountFails (windowKey .sustained i) l.limits.sustained.window now

omit [IsStrictOrderedRing K] in
/-- Without a shared store no call fails. -/
theorem not_recountLost {l : Limiter K σ} (h : l.shared = none) (now : K) (ids : List Identifier) :
    ¬ l.RecountLost now ids := by
  intro hlost
  obtain ⟨i, -, -, store, hstore, -⟩ := hlost
  have hlimiter := (Session.run_alone (s := ⟨l, unchanged, l.shared.isSome, []⟩) (.inr h) now
    (.consumeAll l.limits now (.done (.allow 0 0 0) []) (Plan.windows ids))).2
  rw [asked, hlimiter] at hstore
  cases h.symm.trans hstore

/-- **What is left after a request.** A limiter, with or without a shared store, has made any steps at
any readings of the clock, and any calls to the shared store may have failed. A request that it
allows is told that less than the limit is left, unless the first of its calls to fail is the first
one of those that count. Then it is told what the windows in memory had left before the request. This
takes a shared store. -/
theorem remaining_lt (C : SharedWindows σ K) (limits : Limits) (shared : Option σ)
    (hshared : ∀ store, shared = some store → ∃ L, C.Holds store L)
    (hlimit : 1 ≤ limits.sustained.limit.toNat) (hwindow : 1 ≤ limits.sustained.window.toNat)
    (steps : List (Step K)) (now : K) (ids : List Identifier) (hids : ids ≠ []) :
    let l := (start limits shared).after steps
    let d := (l.requestQuota now ids).2.1
    (shared = none → ¬ l.RecountLost now ids) ∧
    (d.allowed = true →
      (¬ l.RecountLost now ids → d.remaining.toNat < limits.sustained.limit.toNat) ∧
      (l.RecountLost now ids → d.remaining.toNat
        = ((ids.map fun i => limits.sustained.limit.toNat - l.entries now (i, .sustained)).min?).getD
            limits.sustained.limit.toNat)) := by
  intro l d
  refine ⟨fun hnone => not_recountLost (shared_after hnone steps) now ids, fun hallowed => ?_⟩
  have hlimits : l.limits = limits := limits_after _ steps
  have hsound : Sound C l := Sound.after ⟨WindowStore.ordered_empty, hshared⟩ steps
  have hbegin : Session.Recorded C now l.fallback [] ⟨l, unchanged, l.shared.isSome, []⟩ := by
    cases hstore : l.shared with
    | none => exact .inMemory (.inr hstore) nofun
    | some store =>
      obtain ⟨L, hL⟩ := hsound.holds store hstore
      exact .shared rfl hstore hL rfl nofun
  obtain ⟨s, hs, hidle, hsound', hrecorded⟩ :=
    Session.exists_recorded hbegin hsound rfl (by rw [hlimits]; exact hwindow) hallowed
  have hd : d = (Session.run now s (.countAll limits now limits.sustained.limit ids)).2 := by
    rw [← hlimits]
    exact congrArg Prod.snd (hs _)
  have hasked : l.asked now ids = s.report [] := congrArg Prod.fst (hs _)
  obtain ⟨i, rest, rfl⟩ := List.exists_cons_of_ne_nil hids
  have hlost : l.RecountLost now (i :: rest)
      ↔ s.CountFails (windowKey .sustained i) limits.sustained.window now := by
    rw [RecountLost, hasked, hlimits]
    simp [Session.CountFails, Session.report]
  rw [hlost, hd]
  cases hrecorded with
  | shared huse hstore hL hsame hmem =>
    refine ⟨fun hcounts => ?_, fun hfails => ?_⟩
    · exact Session.remaining_lt_of_counted hlimit hwindow hidle huse hstore hL
        (hmem i (Plan.mem_windows.mpr (List.mem_cons_self ..))) hcounts
    · obtain ⟨s', halone, hfallback, hrun⟩ := Session.run_countAll_of_fails hidle hfails
      rw [hrun, Session.remaining_of_alone halone (by rw [hfallback]; exact hsound'.ordered),
        hfallback, hsame]
      simp only [← hlimits, length_liveIn]
  | inMemory halone hmem =>
    refine ⟨fun _ => ?_, fun hfails => ?_⟩
    · obtain ⟨init, j, hlast⟩ := (List.eq_nil_or_concat (i :: rest)).resolve_left hids
      rw [List.concat_eq_append] at hlast
      rw [List.nil_append, hlast] at hmem
      rw [hlast]
      have hcount := one_le_length_live hwindow
        (hmem (j, .sustained) (Plan.getLast?_windows init j))
      rw [Session.remaining_of_alone halone hsound'.ordered]
      refine (List.min?_getD_le_of_mem (List.mem_map_of_mem
        (List.mem_append_right init (List.mem_singleton_self j)))).trans_lt ?_
      exact Nat.sub_lt hlimit hcount
    · obtain ⟨huse, store, hstore, -⟩ := hfails
      exact absurd halone (Session.not_alone huse hstore)

/-- A store that fails one call of the first request and one of the second. -/
def unsteady : ScriptedStore ℚ := .start .ok [.ok, .closed, .ok, .ok, .silent]

/-- The first request of a client is recorded in memory, since the shared store fails. The second one,
of the same client and another, is recorded on both sides, and counted in memory. -/
theorem remaining_lt_unsteady :
    let l := (start ⟨⟨2, 60⟩, ⟨10, 1⟩, .ofMillis 250⟩ (some unsteady)).after
      [.request 1000 [.ip "a"], .sweep 1001]
    (l.requestQuota 1001 [.ip "a", .user "b"]).2.1.allowed = true ∧
      (l.requestQuota 1001 [.ip "a", .user "b"]).2.1.remaining.toNat < 2 := by
  intro l
  have hallowed : (l.requestQuota 1001 [.ip "a", .user "b"]).2.1.allowed = true := by
    decide +kernel
  have hkeeps : ∀ store, some unsteady = some store →
      ∃ L, ScriptedStore.sliding.Holds store L := by
    intro store hstore
    cases hstore
    exact ⟨EventLog.empty, ⟨rfl, by decide⟩, WindowStore.ordered_empty, fun _ => .refl _⟩
  have hasked : (l.asked 1001 [.ip "a", .user "b"]).useShared = false := by decide +kernel
  have hlimit := (remaining_lt ScriptedStore.sliding ⟨⟨2, 60⟩, ⟨10, 1⟩, .ofMillis 250⟩
    (some unsteady) hkeeps (by decide) (by decide) [.request 1000 [.ip "a"], .sweep 1001] 1001
    [.ip "a", .user "b"] nofun).2 hallowed
  refine ⟨hallowed, hlimit.1 fun hlost => ?_⟩
  obtain ⟨i, -, huse, -⟩ := hlost
  cases huse.symm.trans hasked

/-- A store that records a request and then fails to count it. -/
theorem remaining_full :
    let store : ScriptedStore ℚ := .start .ok [.ok, .ok, .closed]
    let l := start ⟨⟨2, 60⟩, ⟨10, 1⟩, .ofMillis 250⟩ (some store)
    ScriptedStore.sliding.Holds store EventLog.empty ∧
      (l.requestQuota 1000 [.ip "a"]).2.1.allowed = true ∧
      (l.requestQuota 1000 [.ip "a"]).2.1.remaining.toNat = 2 := by
  intro store l
  refine ⟨⟨⟨rfl, by decide⟩, WindowStore.ordered_empty, fun _ => .refl _⟩, ?_, ?_⟩
  · decide +kernel
  · decide +kernel

end Limiter

end AdmissionGate
