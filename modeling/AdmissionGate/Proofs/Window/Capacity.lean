import AdmissionGate.Proofs.Window.Sweep

/-!
# Buckets under any clock

Nothing is asked of the clock here. It may step back between two calls as far as it likes, and every
call may name a window and a limit of its own. What a call leaves in a bucket is still known exactly:
the events above the cutoff of the call, in their order, and the new one if there was room for it
(`WindowStore.bucket_exact`).

How many events a bucket can come to hold depends on the limits alone. No call takes an event in where
the limit is reached, so a key that is always asked with one limit stays within it
(`WindowStore.length_held_after_le`).
-/

namespace AdmissionGate

open Instant

/-- The limit within which a use records under a key, if it tries to. -/
def StoreUse.limit? {τ : Type} (key : String) : StoreUse τ → Option UInt64
  | .step (.call (.consume key' limit _ _)) => if key' = key then some limit else none
  | .step (.call (.count _ _ _)) => none
  | .step (.sweep _) => none
  | .close => none

variable {τ : Type} [Instant τ]

namespace WindowStore

/-! ## One call -/

/-- The live events are those above the cutoff. -/
theorem live_eq_filter (s : WindowStore τ) (key : String) (window : UInt64) (now : τ) :
    s.live key window now
      = (s.held key).filter fun t => ¬ NotAfter t (Bucket.cutoff now window) := by
  refine List.filter_congr fun t _ => ?_
  show (!notAfter t _) = decide (¬ notAfter t _ = true)
  rw [decide_not, Bool.decide_eq_true]

section Lawful

variable [LawfulInstant τ] {s : WindowStore τ} {key : String} {limit window : UInt64} {now : τ}

/-- An event that is recorded parts the live ones into those before it and those behind it. -/
theorem exists_of_allowed (h : s.Ordered) (hnow : IsTime now)
    (hallowed : (s.consume key limit window now).2.allowed = true) :
    ∃ before behind, before ++ behind = s.live key window now ∧
      (s.consume key limit window now).1.held key = before ++ now :: behind :=
  ⟨_, _, ((h.live key window now).eq_filter_append now).symm,
    held_consume_of_allowed h hnow hallowed⟩

/-! ## One use after the other -/

/-- No use makes a bucket grow beyond the limit of its key. -/
theorem length_held_use_le (h : s.Ordered) {u : StoreUse τ} (hlimit : ∀ l ∈ u.limit? key, l = limit)
    (hle : (s.held key).length ≤ limit.toNat) : ((s.use u).held key).length ≤ limit.toNat := by
  -- whatever is dropped, at most one event comes in, and only under this key
  have hlive : ∀ window now, (s.live key window now).length ≤ limit.toNat :=
    fun _ _ => (List.length_filter_le _ _).trans hle
  cases u with
  | step step =>
    cases step with
    | call c =>
      cases c with
      | consume key' limit' window now =>
        show ((s.consume key' limit' window now).1.held key).length ≤ limit.toNat
        rw [held_consume h]
        split
        · next hkey =>
          obtain rfl : limit' = limit := hlimit limit' (if_pos hkey)
          rw [hkey]
          exact length_recorded_le (hlive window now)
        · exact hle
      | count key' window now =>
        show ((s.current key' window now).1.held key).length ≤ limit.toNat
        rw [held_current h]
        split
        · next hkey =>
          rw [hkey]
          exact hlive window now
        · exact hle
    | sweep now =>
      show ((s.sweep now).1.held key).length ≤ limit.toNat
      rw [held_sweep_lastWindow h]
      exact hlive _ now
  | close => exact Nat.zero_le _

/-- A key that is always asked with one limit never holds more events than that. -/
theorem length_held_after_le (h : s.Ordered) {uses : List (StoreUse τ)}
    (htimes : ∀ u ∈ uses, ∀ t ∈ u.time?, IsTime t)
    (hlimit : ∀ u ∈ uses, ∀ l ∈ u.limit? key, l = limit)
    (hle : (s.held key).length ≤ limit.toNat) : ((s.after uses).held key).length ≤ limit.toNat := by
  induction uses generalizing s with
  | nil => exact hle
  | cons u rest ih =>
    have hu : (s.use u).Ordered := h.use (htimes u (List.mem_cons_self ..))
    have hle' : ((s.use u).held key).length ≤ limit.toNat :=
      length_held_use_le h (hlimit u (List.mem_cons_self ..)) hle
    exact ih hu (fun u' hu' => htimes u' (List.mem_cons_of_mem _ hu'))
      (fun u' hu' => hlimit u' (List.mem_cons_of_mem _ hu')) hle'

/-- **Buckets under any clock.** Whatever was done with a store, and in whatever order of time, every
bucket is in order. A call leaves the events of its bucket above the cutoff in their order. If it
records an event, this one is put among them once, and otherwise there are no others. And a key that is
always asked with one limit holds no more events than that. -/
theorem bucket_exact (uses : List (StoreUse τ)) (htimes : ∀ u ∈ uses, ∀ t ∈ u.time?, IsTime t) :
    let s := empty.after uses
    s.Ordered ∧
      (∀ key window now, IsTime now →
        let kept := (s.held key).filter fun t => ¬ NotAfter t (Bucket.cutoff now window)
        (∀ limit,
          ((s.consume key limit window now).2.allowed = true →
            ∃ before behind, before ++ behind = kept ∧
              (s.consume key limit window now).1.held key = before ++ now :: behind) ∧
          ((s.consume key limit window now).2.allowed = false →
            (s.consume key limit window now).1.held key = kept)) ∧
        (s.current key window now).1.held key = kept) ∧
      ∀ key limit, (∀ u ∈ uses, ∀ l ∈ u.limit? key, l = limit) →
        (s.held key).length ≤ limit.toNat := by
  intro s
  have hordered : s.Ordered := ordered_empty.after htimes
  refine ⟨hordered, fun key window now hnow => ?_, fun key limit hlimit => ?_⟩
  · simp only [← live_eq_filter]
    refine ⟨fun limit => ⟨exists_of_allowed hordered hnow, held_consume_of_denied hordered hnow⟩, ?_⟩
    rw [held_current hordered, if_pos rfl]
  · exact length_held_after_le ordered_empty htimes hlimit (Nat.zero_le _)

end Lawful

/-- The clock goes back between two events of one key, which are asked for in different windows. -/
def setBack : List (StoreUse Double) :=
  [.step (.call (.consume "a" 2 60 ⟨0x4059000000000000⟩)),
    .step (.call (.consume "a" 2 30 ⟨0x4051800000000000⟩)),
    .step (.call (.consume "b" 1 60 ⟨0x4051800000000000⟩))]

/-- Events at 70 and at 100 seconds are held in their order. At 76 seconds, a window of five of them has
only the later one left, with room for another before it; at 75 seconds, one of sixty is full. -/
theorem bucket_exact_setBack :
    let s := (empty : WindowStore Double).after setBack
    s.Ordered ∧
      (∃ before behind, before ++ behind = [⟨0x4059000000000000⟩] ∧
        (s.consume "a" 2 5 ⟨0x4053000000000000⟩).1.held "a"
          = before ++ ⟨0x4053000000000000⟩ :: behind) ∧
      (s.current "a" 5 ⟨0x4053000000000000⟩).1.held "a" = [⟨0x4059000000000000⟩] ∧
      (s.consume "a" 2 60 ⟨0x4052C00000000000⟩).1.held "a"
        = [⟨0x4051800000000000⟩, ⟨0x4059000000000000⟩] ∧
      (s.held "a").length ≤ 2 := by
  intro s
  obtain ⟨hordered, hcalls, hbound⟩ := bucket_exact setBack (by decide +kernel)
  obtain ⟨hshort, hcount⟩ := hcalls "a" 5 ⟨0x4053000000000000⟩ (by decide +kernel)
  obtain ⟨hlong, -⟩ := hcalls "a" 60 ⟨0x4052C00000000000⟩ (by decide +kernel)
  have hlimit : ∀ u ∈ setBack, ∀ l ∈ u.limit? "a", l = 2 := by simp [setBack, StoreUse.limit?]
  refine ⟨hordered, ?_, ?_, ?_, hbound "a" 2 hlimit⟩
  · obtain ⟨before, behind, hkept, hheld⟩ := (hshort 2).1 (by decide +kernel)
    refine ⟨before, behind, hkept.trans ?_, hheld⟩
    decide +kernel
  · refine hcount.trans ?_
    decide +kernel
  · refine ((hlong 2).2 (by decide +kernel)).trans ?_
    decide +kernel

end WindowStore

end AdmissionGate
