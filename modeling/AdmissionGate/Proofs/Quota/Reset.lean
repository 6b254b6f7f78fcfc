import AdmissionGate.Proofs.Quota.Retry

/-!
# When the quota is whole again

A denial also names a second: that of the request with the seconds to wait added to it. The wait is
rounded up, but the instant of the request is cut to whole seconds before, and what is cut off can be
missing in the end. The sum falls short of the instant at which the oldest event leaves its window if
the fraction of that event is positive and no greater than that of the request
(`floor_add_ceil_lt_iff`), and then by less than a second.

* `Limiter.resetEpoch_of_denied`: the second that a denial names.
* `Limiter.hasRoom_of_subperm`: a window that was full, and in which nothing has been recorded since,
  has room once its oldest event has left.
* `Limiter.resetEpoch_room`: from when on there is room. `Limiter.resetEpoch_early` has a request that
  is told a second too early.
-/

namespace AdmissionGate

open Instant

section Rounding

variable {K : Type} [Field K] [LinearOrder K] [IsStrictOrderedRing K] [FloorRing K]

/-- Whole seconds and a wait that is rounded up come to less than a second too little. -/
theorem lt_floor_add_ceil_add_one (now exit : K) : exit < ⌊now⌋ + ⌈exit - now⌉ + 1 := by
  have hfloor := Int.lt_floor_add_one now
  have hceil := Int.le_ceil (exit - now)
  linarith

/-- They come to too little if the end is past a whole second, by no more than was cut off. -/
theorem floor_add_ceil_lt_iff (now exit : K) :
    (⌊now⌋ + ⌈exit - now⌉ : K) < exit ↔ 0 < Int.fract exit ∧ Int.fract exit ≤ Int.fract now := by
  have hexit := Int.floor_add_fract exit
  have hnow := Int.floor_add_fract now
  have hexit_nonneg := Int.fract_nonneg exit
  have hexit_lt := Int.fract_lt_one exit
  have hnow_nonneg := Int.fract_nonneg now
  have hnow_lt := Int.fract_lt_one now
  rcases le_or_gt (Int.fract exit) (Int.fract now) with hle | hlt
  · -- the sum is the whole second before the end
    have hceil : ⌈exit - now⌉ = ⌊exit⌋ - ⌊now⌋ := by
      rw [Int.ceil_eq_iff]
      push_cast
      constructor <;> linarith
    rw [hceil]
    push_cast
    constructor
    · exact fun h => ⟨by linarith, hle⟩
    · exact fun h => by linarith [h.1]
  · have hceil : ⌈exit - now⌉ = ⌊exit⌋ - ⌊now⌋ + 1 := by
      rw [Int.ceil_eq_iff]
      push_cast
      constructor <;> linarith
    rw [hceil]
    push_cast
    constructor
    · exact fun h => by linarith
    · exact fun h => by linarith [h.2]

end Rounding

namespace Limiter

section Denied

variable {τ σ : Type} [Instant τ] [SharedStore σ τ]

/-- A denial names the second of the request with the seconds to wait added to it. -/
theorem resetEpoch_of_denied {l : Limiter τ σ} {now : τ} {ids : List Identifier} {denial : Denial}
    (hdenied : (l.requestQuota now ids).2.1.denied = some denial) :
    (l.requestQuota now ids).2.1.resetEpoch
      = addSaturating (wholeSeconds now) (l.requestQuota now ids).2.1.retryAfter := by
  have hends : (Plan.ofIdentifiers l.limits now ids).Ends fun d _ =>
      d.denied.isSome = true → d.resetEpoch = addSaturating (wholeSeconds now) d.retryAfter := by
    refine Plan.ends_ofIdentifiers (fun _ _ _ => nofun) ?_ ids
    intro tier i o _
    rfl
  obtain ⟨_, h⟩ := Session.decision_run hends now
    (⟨l, unchanged, l.shared.isSome, []⟩ : Session τ σ)
  exact h (hdenied ▸ rfl)

end Denied

section Exact

variable {K : Type} [Field K] [LinearOrder K] [IsStrictOrderedRing K] [FloorRing K]
  {σ : Type} [SharedStore σ K]

omit [SharedStore σ K] in
/-- A window that was full, and in which nothing has been recorded since, has room as soon as its oldest
event has left. -/
theorem hasRoom_of_subperm {l : Limiter K σ} {now oldest u : K} {tier : Tier} {i : Identifier}
    {held : List K} (hw : l.fallback.Ordered)
    (h : FullWindow (l.limits.tier tier) now oldest held)
    (hkept : (l.fallback.held (windowKey tier i)).Subperm held)
    (hu : oldest + (l.limits.tier tier).window.toNat ≤ u) : l.hasRoom tier i u = true := by
  have hanswer : l.hasRoom tier i u = !isFull l.limits u l.fallback (i, tier) :=
    allowed_consume hw (isTime_exact u) l.limits (i, tier)
  rw [hanswer, Bool.not_eq_true', isFull, decide_eq_false_iff_not]
  intro hle
  have hsub : (liveIn l.limits u l.fallback (i, tier)).length
      ≤ (held.filter (Bucket.isLive (l.limits.tier tier).window u)).length :=
    (hkept.filter _).length_le
  have hlt := (h.full_iff u).mp (hle.trans hsub)
  linarith

/-- If the clock has not gone back, the wait is that of the oldest event of the window that denied a
request. It is no longer than the window, and so it is in the range of words. -/
theorem exists_fullWindow_of_denied (limits : Limits) {steps : List (Step K)} {now : K}
    {ids : List Identifier} {tier : Tier} {i : Identifier}
    (hlimit : 1 ≤ (limits.tier tier).limit.toNat)
    (horder : (times steps ++ [now]).Pairwise (· ≤ ·))
    (hdenied : (((start limits (none : Option σ)).after steps).requestQuota now ids).2.1.denied
      = some ⟨tier, i⟩) :
    let denied := ((start limits (none : Option σ)).after steps).requestQuota now ids
    ∃ oldest, FullWindow (limits.tier tier) now oldest
        (denied.1.fallback.held (windowKey tier i)) ∧
      (denied.2.1.retryAfter.toNat : ℤ) = ⌈oldest + (limits.tier tier).window.toNat - now⌉ := by
  intro denied
  set l := (start limits (none : Option σ)).after steps
  have hlimits : l.limits = limits := limits_after _ steps
  have hreach : Reachable l.limits l.fallback := by
    rw [hlimits]
    exact reachable_after (l := start limits none) rfl .refl fun t _ => isTime_exact t
  have hlimit' : 1 ≤ (l.limits.tier tier).limit.toNat := by
    rw [hlimits]
    exact hlimit
  obtain ⟨oldest, hwait, hwindow⟩ :=
    fullWindow_of_denied hlimit' (shared_after rfl steps) hreach hdenied
  rw [hlimits] at hwait hwindow
  refine ⟨oldest, hwindow, ?_⟩
  have hle : ⌈oldest + (limits.tier tier).window.toNat - now⌉
      ≤ ((limits.tier tier).window.toNat : ℤ) := by
    refine Int.ceil_le.mpr ?_
    rw [Int.cast_natCast]
    linarith [held_le limits ids horder hwindow.mem]
  have hword : (limits.tier tier).window.toNat < 2 ^ 64 := (limits.tier tier).window.toNat_lt
  have hclamp : (denied.2.1.retryAfter.toNat : ℤ)
      = min ⌈oldest + (limits.tier tier).window.toNat - now⌉ (2 ^ 64 - 1) := by
    rw [← hwindow.retryAfter_eq, ← hwait]
  omega

/-- The whole seconds of a request and the wait from there fall short of the end of the wait. -/
def FallsShort (now oldest : K) : Prop :=
  0 ≤ now ∧ 0 < Int.fract oldest ∧ Int.fract oldest ≤ Int.fract now

/-- Before the epoch nothing is cut off, so that the sum falls short only after it. -/
theorem lt_iff_fallsShort (now oldest : K) (window : UInt64) :
    (⌊now⌋₊ + ⌈oldest + window.toNat - now⌉ : K) < oldest + window.toNat
      ↔ FallsShort now oldest := by
  rcases le_or_gt 0 now with hnow | hnow
  · have hfloor : (⌊now⌋₊ : K) = ⌊now⌋ := natCast_floor_eq_intCast_floor hnow
    rw [hfloor, floor_add_ceil_lt_iff, Int.fract_add_natCast]
    exact (and_iff_right hnow).symm
  · have hceil := Int.le_ceil (oldest + window.toNat - now)
    rw [Nat.floor_of_nonpos hnow.le, Nat.cast_zero, zero_add]
    constructor
    · exact fun h => by linarith
    · exact fun h => absurd hnow (not_lt.mpr h.1)

/-- **From when on there is room.** A limiter without a shared store, with a clock that never goes
back, denies a request. As long as nothing is recorded in the window that denied it, this window has
room at every reading of the clock that is at least a second past the one that the denial names. It has
room from the named second on unless the sum falls short, and if the sum does, then the named second
comes before the oldest event has left, and there is no room until then. The second is a word, and the
greatest word stands for whatever is out of range. -/
theorem resetEpoch_room (limits : Limits) (steps : List (Step K)) (now : K)
    (ids : List Identifier) (tier : Tier) (i : Identifier)
    (hlimit : 1 ≤ (limits.tier tier).limit.toNat)
    (horder : (times steps ++ [now]).Pairwise (· ≤ ·))
    (hdenied : (((start limits (none : Option σ)).after steps).requestQuota now ids).2.1.denied
      = some ⟨tier, i⟩)
    (between : List (Step K))
    (hkept : (((((start limits (none : Option σ)).after steps).requestQuota now
        ids).1.after between).fallback.held (windowKey tier i)).Subperm
      ((((start limits (none : Option σ)).after steps).requestQuota now
        ids).1.fallback.held (windowKey tier i))) :
    let denied := ((start limits (none : Option σ)).after steps).requestQuota now ids
    let reset := denied.2.1.resetEpoch.toNat
    let later := denied.1.after between
    (reset < 2 ^ 64 - 1 → ∀ u : K, reset + 1 ≤ u → later.hasRoom tier i u = true) ∧
      ∃ oldest ∈ denied.1.fallback.held (windowKey tier i),
        (∀ e ∈ denied.1.fallback.held (windowKey tier i), oldest ≤ e) ∧
        (¬ FallsShort now oldest → reset < 2 ^ 64 - 1 →
          ∀ u : K, reset ≤ u → later.hasRoom tier i u = true) ∧
        (FallsShort now oldest → (reset : K) < oldest + (limits.tier tier).window.toNat ∧
          ∀ u < oldest + ((limits.tier tier).window.toNat : K),
            denied.1.hasRoom tier i u = false) := by
  intro denied reset later
  obtain ⟨oldest, hwindow, hr⟩ := exists_fullWindow_of_denied limits hlimit horder hdenied
  have hreset : reset = min (⌊now⌋₊ + denied.2.1.retryAfter.toNat) (2 ^ 64 - 1) := by
    show denied.2.1.resetEpoch.toNat = _
    rw [resetEpoch_of_denied hdenied, toNat_addSaturating_wholeSeconds]
  have hsum : ((⌊now⌋₊ + denied.2.1.retryAfter.toNat : ℕ) : K)
      = ⌊now⌋₊ + ⌈oldest + (limits.tier tier).window.toNat - now⌉ := by
    rw [Nat.cast_add, ← Int.cast_natCast denied.2.1.retryAfter.toNat, hr]
  have hfloor : (⌊now⌋ : K) ≤ ⌊now⌋₊ := by
    rw [← Int.cast_natCast, ← Int.floor_toNat]
    exact Int.cast_le.mpr (Int.self_le_toNat _)
  have hexact : reset < 2 ^ 64 - 1 →
      (reset : K) = ⌊now⌋₊ + ⌈oldest + (limits.tier tier).window.toNat - now⌉ := by
    intro hword
    rw [← hsum, hreset, min_eq_left (by omega)]
  have hlimits : denied.1.limits = limits :=
    (limits_after _ [.request now ids]).trans (limits_after _ steps)
  have hlimits' : later.limits = limits := (limits_after _ between).trans hlimits
  have hshared : ((start limits (none : Option σ)).after steps).shared = none :=
    shared_after rfl steps
  have hordered : ((start limits (none : Option σ)).after steps).fallback.Ordered :=
    ordered_after rfl WindowStore.ordered_empty fun t _ => isTime_exact t
  have hordered' : denied.1.fallback.Ordered := by
    show (((start limits (none : Option σ)).after steps).after [.request now ids]).fallback.Ordered
    exact ordered_after hshared hordered fun t _ => isTime_exact t
  have hroom : ∀ u, oldest + (limits.tier tier).window.toNat ≤ u →
      later.hasRoom tier i u = true := by
    intro u hu
    refine hasRoom_of_subperm ?_ (by rw [hlimits']; exact hwindow) hkept (by rw [hlimits']; exact hu)
    exact ordered_after (shared_after hshared [.request now ids]) hordered' fun t _ => isTime_exact t
  refine ⟨fun hword u hle => hroom u ?_, oldest, hwindow.mem, hwindow.oldest_le,
    fun hshort hword u hle => hroom u ?_, fun hshort => ⟨?_, fun u hu => ?_⟩⟩
  · have hbound := lt_floor_add_ceil_add_one now (oldest + (limits.tier tier).window.toNat)
    have hsecond := hexact hword
    linarith
  · rw [← lt_iff_fallsShort now oldest (limits.tier tier).window, not_lt] at hshort
    have hsecond := hexact hword
    linarith
  · refine lt_of_le_of_lt ?_ ((lt_iff_fallsShort now oldest _).mpr hshort)
    rw [← hsum, hreset]
    exact Nat.cast_le.mpr (min_le_left _ _)
  · have hiff : denied.1.hasRoom tier i u = true
        ↔ oldest + (denied.1.limits.tier tier).window.toNat ≤ u :=
      hasRoom_iff hordered' (by rw [hlimits]; exact hwindow) u
    rw [hlimits] at hiff
    rw [← Bool.not_eq_true]
    exact fun h => absurd (hiff.mp h) (not_le.mpr hu)

/-- A client that uses up its minute in the first quarter of a second. -/
def quarterPast : Limiter ℚ (ScriptedStore ℚ) :=
  (start ⟨⟨1, 60⟩, ⟨10, 1⟩, .ofMillis 250⟩ none).after [.request 1000.25 [.ip "a"]]

/-- It comes back and is told of the second 1060. Another one comes in, old events are dropped, and it
is denied once more before it has room at 1061. -/
theorem resetEpoch_room_minute :
    (quarterPast.requestQuota 1010.5 [.ip "a"]).2.1.resetEpoch.toNat = 1060 ∧
      ((quarterPast.requestQuota 1010.5 [.ip "a"]).1.after
        [.request 1030 [.ip "b"], .sweep 1040, .request 1050 [.ip "a"]]).hasRoom
          .sustained (.ip "a") 1061 = true := by
  have hreset : (quarterPast.requestQuota 1010.5 [.ip "a"]).2.1.resetEpoch.toNat = 1060 := by
    decide +kernel
  obtain ⟨hlate, -⟩ := resetEpoch_room (σ := ScriptedStore ℚ)
    ⟨⟨1, 60⟩, ⟨10, 1⟩, .ofMillis 250⟩ [.request 1000.25 [.ip "a"]] 1010.5 [.ip "a"] .sustained
    (.ip "a") (by decide) (by decide +kernel) (by decide +kernel)
    [.request 1030 [.ip "b"], .sweep 1040, .request 1050 [.ip "a"]] (by decide +kernel)
  change (quarterPast.requestQuota 1010.5 [.ip "a"]).2.1.resetEpoch.toNat < 2 ^ 64 - 1 →
    ∀ u : ℚ, (quarterPast.requestQuota 1010.5 [.ip "a"]).2.1.resetEpoch.toNat + 1 ≤ u → _ at hlate
  rw [hreset] at hlate
  exact ⟨hreset, hlate (by norm_num) 1061 (by norm_num)⟩

/-- At 1060 the event of 1000.25 has a quarter of a second left, although it is the second named. -/
theorem resetEpoch_early :
    (quarterPast.requestQuota 1010.5 [.ip "a"]).2.1.denied = some ⟨.sustained, .ip "a"⟩ ∧
      ([1000.25, 1010.5, 1060] : List ℚ).Pairwise (· ≤ ·) ∧
      (quarterPast.requestQuota 1010.5 [.ip "a"]).2.1.resetEpoch.toNat = 1060 ∧
      (quarterPast.requestQuota 1010.5 [.ip "a"]).1.hasRoom .sustained (.ip "a") 1060 = false := by
  decide +kernel

end Exact

end Limiter

end AdmissionGate
