import AdmissionGate.Proofs.Quota.Isolation
import AdmissionGate.Proofs.Quota.Traffic

/-!
# When to come back

A request that is denied is told how many seconds are left until its window has room again. This is
the whole number of seconds after which the oldest event has left the window: the window that was found
full holds exactly as many events as it may, so that it has room as soon as one of them is gone, and
none of them goes before the oldest.

* `Plan.exists_full_of_denied`: the window that denied a request is full in the end, and the decision
  is the refusal that it stands for.
* `FullWindow`: what such a window holds, and what it answers at any other instant.
* `Limiter.held_after`: events come from nowhere but the readings of the clock.
* `Limiter.retryAfter_exact`: the bound for a run of any steps. The number is a word, which is the only
  reason why a window can be full for longer than that: with a window of nearly `2 ^ 64` seconds and a
  clock that has been set back, the wait may be out of the range of words
  (`Limiter.retryAfter_out_of_range`).
-/

namespace AdmissionGate

open Instant

/-! ## The window that denies a request -/

section Denied

variable {τ : Type} [Instant τ] [LawfulInstant τ] {limits : Limits} {now : τ} {w : WindowStore τ}

namespace Plan

/-- A request is denied by a window that is full when it is asked. This is the last call. -/
theorem exists_full_of_denied {next : Plan τ} {ws : List (Identifier × Tier)} {denial : Denial}
    (hreach : Reachable limits w) (hnow : IsTime now)
    (hnext : ∀ w : WindowStore τ, w.Ordered → (next.run WindowStore.counter now w).2.denied = none)
    (hdenied : ((consumeAll limits now next ws).run WindowStore.counter now w).2.denied
      = some denial) :
    ∃ w', Reachable limits w' ∧ isFull limits now w' (denial.identifier, denial.tier) = true ∧
      (consumeAll limits now next ws).run WindowStore.counter now w
        = (consumed limits now w' (denial.identifier, denial.tier),
          refuse limits now w' (denial.identifier, denial.tier)) := by
  -- induction on the windows: those that have room lead on to the next
  induction ws generalizing w with
  | nil => cases (hnext w hreach.ordered).symm.trans hdenied
  | cons x rest ih =>
    rw [run_consumeAll_step hreach.ordered hnow] at hdenied ⊢
    cases hfull : isFull limits now w x with
    | true =>
      rw [hfull, if_pos rfl] at hdenied
      obtain rfl : Denial.mk x.2 x.1 = denial := Option.some.inj hdenied
      exact ⟨w, hreach, hfull, if_pos rfl⟩
    | false =>
      rw [hfull, if_neg Bool.false_ne_true] at hdenied
      rw [if_neg Bool.false_ne_true]
      exact ih (hreach.consume x hnow) hdenied

/-- Counting denies nothing. -/
theorem denied_countAll (remaining : UInt64) (ids : List Identifier) (hw : w.Ordered)
    (hnow : IsTime now) :
    ((countAll limits now remaining ids).run WindowStore.counter now w).2.denied = none := by
  rw [run_countAll hw hnow]
  rfl

/-- Whatever a plan leaves in a window was there before, or is recorded by it. -/
theorem held_run (hw : w.Ordered) (hnow : IsTime now) (plan : Plan τ) {key : String} {e : τ}
    (he : e ∈ (plan.run WindowStore.counter now w).1.held key) : e ∈ w.held key ∨ e = now := by
  induction plan generalizing w with
  | done decision events => exact .inl he
  | consume key' limit next ih =>
    rcases ih _ (hw.consume hnow _ _ _) he with he | he
    · exact WindowStore.mem_held_consume hw he
    · exact .inr he
  | count key' window next ih =>
    rcases ih _ (hw.current now _ _) he with he | he
    · exact .inl (WindowStore.mem_held_current hw he)
    · exact .inr he

end Plan

end Denied

/-! ## Full windows -/

section Exact

variable {K : Type} [Field K] [LinearOrder K] [IsStrictOrderedRing K] [FloorRing K]

/-- A window that was found full at `now`: it holds as many events as it may, the oldest first. -/
structure FullWindow (limit : TierLimit) (now oldest : K) (held : List K) : Prop where
  length : held.length = limit.limit.toNat
  mem : oldest ∈ held
  oldest_le : ∀ e ∈ held, oldest ≤ e
  live : now - limit.window.toNat < oldest

namespace FullWindow

variable {limit : TierLimit} {now oldest : K} {held : List K}

omit [IsStrictOrderedRing K] in
/-- A full window has room again as soon as its oldest event has left it. -/
theorem full_iff (h : FullWindow limit now oldest held) (u : K) :
    limit.limit.toNat ≤ (held.filter (Bucket.isLive limit.window u)).length ↔
      u - limit.window.toNat < oldest := by
  constructor
  · intro hle
    rw [← h.length] at hle
    have hsame := List.filter_sublist.eq_of_length_le hle
    exact isLive_iff_lt.mp (List.filter_eq_self.mp hsame oldest h.mem)
  · intro hlt
    have hsame : held.filter (Bucket.isLive limit.window u) = held :=
      List.filter_eq_self.mpr fun e he => isLive_iff_lt.mpr (hlt.trans_le (h.oldest_le e he))
    rw [hsame, h.length]

/-- A full window does not have room at once. -/
theorem one_le_ceil (h : FullWindow limit now oldest held) :
    1 ≤ ⌈oldest + limit.window.toNat - now⌉ := by
  refine Int.one_le_ceil_iff.mpr ?_
  linarith [h.live]

/-- The wait is rounded up to whole seconds, and cut to the range of words. -/
theorem retryAfter_eq (h : FullWindow limit now oldest held) :
    ((retryAfter (some oldest) limit.window now).toNat : ℤ)
      = min ⌈oldest + limit.window.toNat - now⌉ (2 ^ 64 - 1) := by
  have hpos := h.one_le_ceil
  have hwait : retryAfter (some oldest) limit.window now
      = clampWord ⌈oldest + limit.window.toNat - now⌉.toNat := if_pos hpos
  rw [hwait, toNat_clampWord]
  omega

end FullWindow

/-- The window that a request was denied by. -/
theorem Reachable.fullWindow {limits : Limits} {now : K} {w : WindowStore K}
    {x : Identifier × Tier} (hlimit : 1 ≤ (limits.tier x.2).limit.toNat) (h : Reachable limits w)
    (hfull : isFull limits now w x = true) :
    ∃ oldest, earliest (liveIn limits now w x) = some oldest ∧
      FullWindow (limits.tier x.2) now oldest ((consumed limits now w x).held (keyOf x)) := by
  have hle := h.length_held_le WindowStore.ordered_empty (x := x) (Nat.zero_le _)
  have hge : (limits.tier x.2).limit.toNat ≤ (liveIn limits now w x).length :=
    of_decide_eq_true hfull
  have hsub : (liveIn limits now w x).length ≤ (w.held (keyOf x)).length :=
    List.length_filter_le _ _
  cases holdest : earliest (liveIn limits now w x) with
  | none =>
    -- there is room in an empty window
    rw [earliest_eq_none.mp holdest, List.length_nil] at hge
    omega
  | some oldest =>
    obtain ⟨hmem, hfirst⟩ := earliest_spec (fun t _ => isTime_exact t) holdest
    refine ⟨oldest, rfl, ?_⟩
    rw [held_consumed_full h.ordered hfull]
    exact ⟨by omega, hmem, fun e he => notAfter_iff_le.mp (hfirst e he),
      isLive_iff_lt.mp (List.mem_filter.mp hmem).2⟩

namespace Limiter

variable {σ : Type} [SharedStore σ K] {l : Limiter K σ}

/-- Whether a step is a request that does not ask for the window of a key. -/
def Step.Avoids (key : String) : Step K → Prop
  | .request _ ids => ∀ j ∈ ids, ∀ tier, windowKey tier j ≠ key
  | _ => False

omit [IsStrictOrderedRing K] in
/-- What is held for a key stays as it is while nobody asks for it, and nothing is swept. -/
theorem held_after_of_avoids (hshared : l.shared = none) {key : String} {steps : List (Step K)}
    (hsteps : ∀ step ∈ steps, step.Avoids key) :
    (l.after steps).fallback.held key = l.fallback.held key := by
  induction steps generalizing l with
  | nil => rfl
  | cons step rest ih =>
    have hrest := fun step hmem => hsteps step (List.mem_cons_of_mem _ hmem)
    have hstep := hsteps step (List.mem_cons_self ..)
    cases step with
    | request now ids =>
      have hagree : AgreeOn {key} (l.requestQuota now ids).1.fallback l.fallback :=
        agreeOn_requestQuota hshared now hstep
      exact (ih (shared_after hshared [.request now ids]) hrest).trans
        (hagree.held (Set.mem_singleton key))
    | sweep now => exact hstep.elim
    | close => exact hstep.elim

/-- Events come from nowhere but the readings of the clock. -/
theorem held_after (hshared : l.shared = none) (hw : l.fallback.Ordered) {steps : List (Step K)}
    {key : String} {e : K} (he : e ∈ (l.after steps).fallback.held key) :
    e ∈ l.fallback.held key ∨ e ∈ times steps := by
  induction steps generalizing l with
  | nil => exact .inl he
  | cons step rest ih =>
    have hshared' := shared_after hshared [step]
    cases step with
    | request now ids =>
      have hafter := (requestQuota_alone hshared now ids).2
      have hw' : (l.requestQuota now ids).1.fallback.Ordered := by
        rw [hafter]
        exact Plan.ordered_run hw (isTime_exact now) _
      rw [times_request, List.mem_cons]
      rcases ih (l := (l.requestQuota now ids).1) hshared' hw' he with he | he
      · rw [hafter] at he
        exact (Plan.held_run hw (isTime_exact now) _ he).imp_right .inl
      · exact .inr (.inr he)
    | sweep now =>
      rw [times_sweep, List.mem_cons]
      rcases ih (l := (l.sweep now).1) hshared' (hw.sweep now) he with he | he
      · exact .inl (WindowStore.mem_held_sweep hw he)
      · exact .inr (.inr he)
    | close =>
      rcases ih (l := l.close) hshared' WindowStore.ordered_empty he with he | he
      · cases he
      · exact .inr he

/-- Whether a window would have room if it were asked for some at `u`. -/
def hasRoom (l : Limiter K σ) (tier : Tier) (i : Identifier) (u : K) : Bool :=
  (l.fallback.consume (windowKey tier i) (l.limits.tier tier).limit (l.limits.tier tier).window
    u).2.allowed

omit [SharedStore σ K] in
/-- **A full window has room again when its oldest event has left it**, and not before. -/
theorem hasRoom_iff {now oldest : K} {tier : Tier} {i : Identifier} (hw : l.fallback.Ordered)
    (h : FullWindow (l.limits.tier tier) now oldest (l.fallback.held (windowKey tier i))) (u : K) :
    l.hasRoom tier i u = true ↔ oldest + (l.limits.tier tier).window.toNat ≤ u := by
  have hanswer : l.hasRoom tier i u = !isFull l.limits u l.fallback (i, tier) :=
    allowed_consume hw (isTime_exact u) l.limits (i, tier)
  rw [hanswer, Bool.not_eq_true', ← Bool.not_eq_true, isFull, decide_eq_true_iff]
  refine (not_congr (h.full_iff u)).trans ?_
  rw [not_lt, le_sub_iff_add_le]

/-- The window that denied a request, from then on. -/
theorem fullWindow_of_denied {now : K} {ids : List Identifier} {tier : Tier} {i : Identifier}
    (hlimit : 1 ≤ (l.limits.tier tier).limit.toNat) (hshared : l.shared = none)
    (hreach : Reachable l.limits l.fallback)
    (hdenied : (l.requestQuota now ids).2.1.denied = some ⟨tier, i⟩) :
    ∃ oldest, (l.requestQuota now ids).2.1.retryAfter
        = retryAfter (some oldest) (l.limits.tier tier).window now ∧
      FullWindow (l.limits.tier tier) now oldest
        ((l.requestQuota now ids).1.fallback.held (windowKey tier i)) := by
  obtain ⟨hdecision, hafter⟩ := requestQuota_alone hshared now ids
  rw [hdecision] at hdenied ⊢
  obtain ⟨w, hreach', hfull, hrun⟩ := Plan.exists_full_of_denied hreach (isTime_exact now)
    (fun w hw => Plan.denied_countAll _ ids hw (isTime_exact now)) hdenied
  obtain ⟨oldest, holdest, hwindow⟩ :=
    Reachable.fullWindow (x := (i, tier)) hlimit hreach' hfull
  refine ⟨oldest, ?_, ?_⟩
  · rw [Plan.ofIdentifiers, hrun, refuse, holdest]
    rfl
  · rw [hafter, Plan.ofIdentifiers, hrun]
    exact hwindow

/-- As long as nobody else asks for it, it waits for its oldest event to leave. -/
theorem hasRoom_of_denied {now oldest : K} {ids : List Identifier} {tier : Tier} {i : Identifier}
    (hshared : l.shared = none) (hw : l.fallback.Ordered)
    (h : FullWindow (l.limits.tier tier) now oldest
      ((l.requestQuota now ids).1.fallback.held (windowKey tier i)))
    {between : List (Step K)} (hbetween : ∀ step ∈ between, step.Avoids (windowKey tier i)) (u : K) :
    ((l.requestQuota now ids).1.after between).hasRoom tier i u = true
      ↔ oldest + (l.limits.tier tier).window.toNat ≤ u := by
  have hshared' := shared_after hshared [.request now ids]
  have hlimits : ((l.requestQuota now ids).1.after between).limits = l.limits :=
    (limits_after _ between).trans (limits_after l [.request now ids])
  have hw' : (l.requestQuota now ids).1.fallback.Ordered := by
    rw [(requestQuota_alone hshared now ids).2]
    exact Plan.ordered_run hw (isTime_exact now) _
  have hheld : ((l.requestQuota now ids).1.after between).fallback.held (windowKey tier i)
      = (l.requestQuota now ids).1.fallback.held (windowKey tier i) :=
    held_after_of_avoids hshared' hbetween
  rw [← hheld, ← hlimits] at h
  rw [← hlimits]
  exact hasRoom_iff (ordered_after hshared' hw' fun t _ => isTime_exact t) h u

/-- If the clock has not gone back, no event lies ahead of the last reading. -/
theorem held_le (limits : Limits) {steps : List (Step K)} {now : K} (ids : List Identifier)
    (horder : (times steps ++ [now]).Pairwise (· ≤ ·)) {key : String} {e : K}
    (he : e ∈ (((start limits (none : Option σ)).after steps).requestQuota now
      ids).1.fallback.held key) : e ≤ now := by
  rw [(requestQuota_alone (shared_after rfl steps) now ids).2] at he
  have hordered : ((start limits (none : Option σ)).after steps).fallback.Ordered :=
    ordered_after rfl WindowStore.ordered_empty fun t _ => isTime_exact t
  rcases Plan.held_run hordered (isTime_exact now) _ he with he | rfl
  · rcases held_after rfl WindowStore.ordered_empty he with he | he
    · cases he
    · exact (List.pairwise_append.mp horder).2.2 e he now (List.mem_singleton_self now)
  · exact le_rfl

/-- **The time to wait is exact.** A limiter without a shared store has made any steps at any
readings of the clock, and then denies a request. As long as nobody else asks for the window that
denied it, this window is full at every whole number of seconds before the time to wait is over, and
has room ever after, unless the oldest event takes more than `2 ^ 64 - 1` seconds to leave. That takes
a clock that has gone back. If it never has, the time to wait is at least one second and at most the
length of the window. -/
theorem retryAfter_exact (limits : Limits) (steps : List (Step K)) (now : K)
    (ids : List Identifier) (tier : Tier) (i : Identifier)
    (hlimit : 1 ≤ (limits.tier tier).limit.toNat)
    (hdenied : (((start limits (none : Option σ)).after steps).requestQuota now ids).2.1.denied
      = some ⟨tier, i⟩)
    (between : List (Step K)) (hbetween : ∀ step ∈ between, step.Avoids (windowKey tier i)) :
    let l := (start limits (none : Option σ)).after steps
    let r := (l.requestQuota now ids).2.1.retryAfter.toNat
    let later := (l.requestQuota now ids).1.after between
    (∀ d : ℤ, d < r → later.hasRoom tier i (now + d) = false) ∧
    (∃ oldest ∈ later.fallback.held (windowKey tier i),
      (∀ e ∈ later.fallback.held (windowKey tier i), oldest ≤ e) ∧
      (oldest + (limits.tier tier).window.toNat - now ≤ 2 ^ 64 - 1 →
        ∀ d : K, r ≤ d → later.hasRoom tier i (now + d) = true)) ∧
    ((times steps ++ [now]).Pairwise (· ≤ ·) →
      1 ≤ r ∧ r ≤ (limits.tier tier).window.toNat ∧
        ∀ d : K, r ≤ d → later.hasRoom tier i (now + d) = true) := by
  intro l r later
  have hshared : l.shared = none := shared_after rfl steps
  have hlimits : l.limits = limits := limits_after _ steps
  have hreach : Reachable l.limits l.fallback := by
    rw [hlimits]
    exact reachable_after (l := start limits none) rfl .refl fun t _ => isTime_exact t
  obtain ⟨oldest, hwait, hwindow⟩ :=
    fullWindow_of_denied (hlimits ▸ hlimit) hshared hreach hdenied
  have hheld : later.fallback.held (windowKey tier i)
      = (l.requestQuota now ids).1.fallback.held (windowKey tier i) :=
    held_after_of_avoids (shared_after hshared [.request now ids]) hbetween
  have hroom := hasRoom_of_denied hshared hreach.ordered hwindow hbetween
  rw [hlimits] at hwait hwindow hroom
  have hr : (r : ℤ) = min ⌈oldest + (limits.tier tier).window.toNat - now⌉ (2 ^ 64 - 1) := by
    rw [← hwindow.retryAfter_eq, ← hwait]
  have hlate : ⌈oldest + (limits.tier tier).window.toNat - now⌉ ≤ 2 ^ 64 - 1 →
      ∀ d : K, r ≤ d → later.hasRoom tier i (now + d) = true := by
    intro hword d hd
    have hceil : ⌈oldest + (limits.tier tier).window.toNat - now⌉ ≤ (r : ℤ) := by omega
    have hle := Int.ceil_le.mp hceil
    rw [Int.cast_natCast] at hle
    rw [hroom]
    linarith
  refine ⟨fun d hd => ?_, ⟨oldest, ?_, ?_, fun hword => hlate ?_⟩, fun horder => ?_⟩
  · have hceil : d < ⌈oldest + (limits.tier tier).window.toNat - now⌉ := by omega
    have hlt := Int.lt_ceil.mp hceil
    rw [← Bool.not_eq_true, hroom]
    linarith
  · exact hheld ▸ hwindow.mem
  · exact hheld ▸ hwindow.oldest_le
  · exact Int.ceil_le.mpr (by exact_mod_cast hword)
  · have hle : ⌈oldest + (limits.tier tier).window.toNat - now⌉
        ≤ ((limits.tier tier).window.toNat : ℤ) := by
      refine Int.ceil_le.mpr ?_
      rw [Int.cast_natCast]
      linarith [held_le limits ids horder hwindow.mem]
    have hpos : 1 ≤ ⌈oldest + (limits.tier tier).window.toNat - now⌉ := hwindow.one_le_ceil
    have hword : (limits.tier tier).window.toNat < 2 ^ 64 := (limits.tier tier).window.toNat_lt
    exact ⟨by omega, by omega, hlate (by omega)⟩

/-- A client that uses up its minute. -/
def minute : Limiter ℚ (ScriptedStore ℚ) :=
  (start ⟨⟨2, 60⟩, ⟨10, 1⟩, .ofMillis 250⟩ none).after
    [.request 1000 [.ip "a"], .request 1000.5 [.ip "a"], .sweep 1005]

/-- It comes back, and another one comes in before the third time. -/
theorem retryAfter_exact_minute :
    (minute.requestQuota 1010.25 [.ip "a"]).2.1.retryAfter.toNat = 50 ∧
      ((minute.requestQuota 1010.25 [.ip "a"]).1.after [.request 1040 [.ip "b"]]).hasRoom
        .sustained (.ip "a") (1010.25 + (49 : ℤ)) = false ∧
      ((minute.requestQuota 1010.25 [.ip "a"]).1.after [.request 1040 [.ip "b"]]).hasRoom
        .sustained (.ip "a") (1010.25 + 50) = true := by
  have hr : (minute.requestQuota 1010.25 [.ip "a"]).2.1.retryAfter.toNat = 50 := by decide +kernel
  obtain ⟨hearly, -, hnever⟩ := retryAfter_exact (σ := ScriptedStore ℚ)
    ⟨⟨2, 60⟩, ⟨10, 1⟩, .ofMillis 250⟩
    [.request 1000 [.ip "a"], .request 1000.5 [.ip "a"], .sweep 1005] 1010.25 [.ip "a"] .sustained
    (.ip "a") (by decide) (by decide +kernel) [.request 1040 [.ip "b"]] (by
      intro step hstep
      rw [List.mem_singleton.mp hstep]
      intro j hj tier
      rw [List.mem_singleton.mp hj]
      cases tier <;> decide)
  have hlate := (hnever (by decide +kernel)).2.2
  change ∀ d : ℤ, d < (minute.requestQuota 1010.25 [.ip "a"]).2.1.retryAfter.toNat → _ at hearly
  change ∀ d : ℚ, (minute.requestQuota 1010.25 [.ip "a"]).2.1.retryAfter.toNat ≤ d → _ at hlate
  rw [hr] at hearly hlate
  exact ⟨hr, hearly 49 (by norm_num), hlate 50 (by norm_num)⟩

/-- A clock that is set back by more than three centuries, and windows of nearly `2 ^ 64` seconds. -/
theorem retryAfter_out_of_range :
    let limits : Limits := ⟨⟨1, 18446744073709551615⟩, ⟨1, 18446744073709551615⟩, .ofMillis 250⟩
    let l := (start limits (none : Option (ScriptedStore ℚ))).after
      [.request 10000000000 [.ip "a"]]
    let r := l.requestQuota 0 [.ip "a"]
    r.2.1.denied = some ⟨.burst, .ip "a"⟩ ∧ r.2.1.retryAfter.toNat ≤ 2 ^ 64 ∧
      r.1.hasRoom .burst (.ip "a") (0 + 2 ^ 64) = false := by
  decide +kernel

end Limiter

end Exact

end AdmissionGate
