import AdmissionGate.Proofs.Window.Log

/-!
# Sweeps

A sweep looks at every key with the window that the key was last asked for. It goes through a bucket
from its front and stops at the first live event, so that it is exact only because buckets are in
order, and they are, whatever was done with the store before and however the clock went
(`WindowStore.ordered_after`).

* `WindowStore.lastWindow?_sweep`, `WindowStore.held_sweep_lastWindow`: which keys stay, and with
  which events.
* `WindowStore.sweep_sweep`: a second sweep at the same instant finds nothing to do.
* `WindowStore.sweep_exact`: all there is to say about a sweep, for every store that calls can lead to.
-/

namespace AdmissionGate

open Instant

/-! ## Histories -/

/-- What can be done with a store in memory in the course of its life. -/
inductive StoreUse (τ : Type) where
  | step (s : StoreStep τ)
  | close

/-- The instant of a use, if it takes one. -/
def StoreUse.time? {τ : Type} : StoreUse τ → Option τ
  | .step s => some s.time
  | .close => none

variable {τ : Type} [Instant τ]

namespace WindowStore

/-- A store after something was done with it. -/
def use (s : WindowStore τ) : StoreUse τ → WindowStore τ
  | .step (.call c) => (counter.answer s c).1
  | .step (.sweep now) => (s.sweep now).1
  | .close => s.close

/-- The store that some uses, one after the other, lead to. -/
def after (s : WindowStore τ) (uses : List (StoreUse τ)) : WindowStore τ := uses.foldl use s

section Order

variable [LawfulInstant τ] {s : WindowStore τ}

/-- Whatever is done with a store, its events stay in order. -/
theorem Ordered.use (h : s.Ordered) {u : StoreUse τ} (htime : ∀ t ∈ u.time?, IsTime t) :
    (s.use u).Ordered := by
  cases u with
  | step step =>
    have hnow : IsTime step.time := htime _ rfl
    cases step with
    | call c =>
      cases c with
      | consume key limit window now => exact h.consume hnow key limit window
      | count key window now => exact h.current now key window
    | sweep now => exact h.sweep now
  | close => exact ordered_empty

/-- The buckets of a store stay in order, in whatever order of time it is used. -/
theorem Ordered.after (h : s.Ordered) {uses : List (StoreUse τ)}
    (htimes : ∀ u ∈ uses, ∀ t ∈ u.time?, IsTime t) : (s.after uses).Ordered := by
  induction uses generalizing s with
  | nil => exact h
  | cons u rest ih =>
    have hu : (s.use u).Ordered := h.use (htimes u (List.mem_cons_self ..))
    exact ih hu fun u' hu' => htimes u' (List.mem_cons_of_mem _ hu')

end Order

/-! ## Keys -/

/-- The keys with a bucket. -/
def keys (s : WindowStore τ) : List String := s.buckets.keys

omit [Instant τ] in
/-- The keys of a store are those that have a bucket. -/
theorem mem_keys_iff {s : WindowStore τ} {key : String} :
    key ∈ s.keys ↔ ∃ w, s.lastWindow? key = some w := by
  rw [keys, Table.mem_keys_iff]
  simp only [lastWindow?, Option.map_eq_some_iff]
  constructor
  · rintro ⟨b, hb⟩
    exact ⟨b.window, b, hb, rfl⟩
  · rintro ⟨_, b, hb, -⟩
    exact ⟨b, hb⟩

end WindowStore

/-! ## One bucket -/

namespace Ring

variable {α : Type}

theorem dropWhile_dropWhile (p : α → Bool) (r : Ring α) :
    (r.dropWhile p).dropWhile p = r.dropWhile p := by
  have hnone : (r.items.dropWhile p).takeWhile p = [] := by
    cases hrest : r.items.dropWhile p with
    | nil => rfl
    | cons a rest =>
      have ha : p a = false := by
        simpa [hrest] using List.head?_dropWhile_not p r.items
      rw [List.takeWhile_cons_of_neg (by simp [ha])]
  simp only [dropWhile, List.dropWhile_idempotent, hnone, List.length_nil, Nat.add_zero,
    Nat.mod_mod]

end Ring

namespace Bucket

theorem prune_prune (b : Bucket τ) (now : τ) : (b.prune now).prune now = b.prune now := by
  simp only [prune, Ring.dropWhile_dropWhile]

/-- What a sweep leaves of a bucket, if it leaves one. -/
def swept (now : τ) (b : Bucket τ) : Option (Bucket τ) :=
  if (b.prune now).times.isEmpty then none else some (b.prune now)

/-- A bucket stays if something in it is live, and is pruned then. -/
theorem swept_eq_some_iff {b b' : Bucket τ} {now : τ} :
    b.swept now = some b' ↔ (b.prune now).times ≠ [] ∧ b' = b.prune now := by
  rw [swept]
  split
  · next hempty => exact ⟨nofun, fun h => absurd (List.isEmpty_iff.mp hempty) h.1⟩
  · next hleft =>
    constructor
    · intro h
      exact ⟨fun hnil => hleft (List.isEmpty_iff.mpr hnil), (Option.some.inj h).symm⟩
    · rintro ⟨-, rfl⟩
      rfl

end Bucket

/-! ## Sweeping -/

namespace WindowStore

/-- A sweep goes through the buckets one by one, and counts those that it drops. -/
theorem sweep_eq (s : WindowStore τ) (now : τ) :
    s.sweep now = (⟨s.buckets.filterMap (Bucket.swept now)⟩,
      s.buckets.size - (s.buckets.filterMap (Bucket.swept now)).size) := rfl

/-- A sweep tells how many keys it has dropped. -/
theorem sweep_snd (s : WindowStore τ) (now : τ) :
    (s.sweep now).2 = (s.keys.filter fun key => decide (key ∉ (s.sweep now).1.keys)).length :=
  Table.size_sub_size_filterMap (Bucket.swept now) s.buckets

/-- At the instant of a sweep, there is nothing left to sweep. -/
theorem sweep_sweep (s : WindowStore τ) (now : τ) :
    (s.sweep now).1.sweep now = ((s.sweep now).1, 0) := by
  have hself : (s.buckets.filterMap (Bucket.swept now)).filterMap (Bucket.swept now)
      = s.buckets.filterMap (Bucket.swept now) := by
    refine Table.filterMap_filterMap_self (fun b b' hb => ?_) s.buckets
    obtain ⟨hleft, rfl⟩ := Bucket.swept_eq_some_iff.mp hb
    rw [Bucket.swept_eq_some_iff, Bucket.prune_prune]
    exact ⟨hleft, rfl⟩
  rw [sweep_eq s now, sweep_eq, hself, Nat.sub_self]

section Lawful

variable [LawfulInstant τ] {s : WindowStore τ} {key : String} {now : τ}

/-- A key outlasts a sweep with its window if one of its events is live. -/
theorem lastWindow?_sweep (h : s.Ordered) {w : UInt64} :
    (s.sweep now).1.lastWindow? key = some w ↔
      s.lastWindow? key = some w ∧ ∃ t ∈ s.held key, Bucket.isLive w now t = true := by
  rw [sweep_eq]
  simp only [lastWindow?, Table.get?_filterMap]
  cases hb : s.buckets.get? key with
  | none => simp
  | some b =>
    have hheld : s.held key = b.times := by simp [held, hb]
    have htimes : (b.prune now).times = b.times.filter (Bucket.isLive b.window now) :=
      Bucket.times_prune (by rw [← hheld]; exact h key) now
    have hleft : (b.prune now).times ≠ [] ↔ ∃ t ∈ b.times, Bucket.isLive b.window now t = true := by
      simp only [htimes, ne_eq, List.filter_eq_nil_iff, not_forall, not_not, exists_prop]
    simp only [Option.bind_some, Option.map_some, Option.map_eq_some_iff,
      Bucket.swept_eq_some_iff, hheld, Option.some.injEq]
    constructor
    · rintro ⟨b', ⟨hne, rfl⟩, rfl⟩
      exact ⟨rfl, hleft.mp hne⟩
    · rintro ⟨rfl, hlive⟩
      exact ⟨_, ⟨hleft.mpr hlive, rfl⟩, rfl⟩

/-- **Sweeps are exact.** Whatever was done with a store, and in whatever order of time: exactly the
keys with a live event stay, each with its live events in their order and with its window; the sweep
tells how many keys are gone; and a second one at the same instant does nothing. No key stays if none
of the events is live, not even one whose bucket had been emptied before. -/
theorem sweep_exact (uses : List (StoreUse τ)) (htimes : ∀ u ∈ uses, ∀ t ∈ u.time?, IsTime t)
    (now : τ) :
    let s := empty.after uses
    let swept := (s.sweep now).1
    (∀ key, key ∈ swept.keys ↔
        ∃ w, s.lastWindow? key = some w ∧ ∃ t ∈ s.held key, Bucket.isLive w now t = true) ∧
      (∀ key w, swept.lastWindow? key = some w →
        s.lastWindow? key = some w ∧
          swept.held key = (s.held key).filter (Bucket.isLive w now)) ∧
      (s.sweep now).2 = (s.keys.filter fun key => decide (key ∉ swept.keys)).length ∧
      swept.sweep now = (swept, 0) ∧
      ((∀ key w, s.lastWindow? key = some w →
        ∀ t ∈ s.held key, NotAfter t (Bucket.cutoff now w)) → swept.size = 0) := by
  intro s swept
  have hordered : s.Ordered := ordered_empty.after htimes
  have hkeys : ∀ key, key ∈ swept.keys ↔
      ∃ w, s.lastWindow? key = some w ∧ ∃ t ∈ s.held key, Bucket.isLive w now t = true := by
    intro key
    rw [mem_keys_iff]
    exact exists_congr fun w => lastWindow?_sweep hordered
  refine ⟨hkeys, fun key w hw => ?_, sweep_snd s now, sweep_sweep s now, fun hpast => ?_⟩
  · have hlast : s.lastWindow? key = some w := ((lastWindow?_sweep hordered).mp hw).1
    refine ⟨hlast, (held_sweep_lastWindow hordered now key).trans ?_⟩
    rw [hlast]
    rfl
  · -- a key that stays would have a live event
    have hnone : swept.keys = [] := by
      refine List.eq_nil_iff_forall_not_mem.mpr fun key hkey => ?_
      obtain ⟨w, hw, t, ht, hlive⟩ := (hkeys key).mp hkey
      have hgone : Bucket.isLive w now t = false := by
        rw [Bucket.isLive, show notAfter t (Bucket.cutoff now w) = true from hpast key w hw t ht]
        rfl
      exact absurd hlive (by simp [hgone])
    show swept.buckets.entries.length = 0
    rw [← List.length_map (f := Prod.fst), show swept.buckets.entries.map Prod.fst = [] from hnone]
    rfl

end Lawful

/-- The clock goes back between two events of one key, the second of which is asked for in a shorter
window; a count leaves another key without any event; a third one is only counted. -/
def untidy : List (StoreUse Double) :=
  [.step (.call (.consume "a" 5 60 ⟨0x4059000000000000⟩)),
    .step (.call (.consume "a" 5 30 ⟨0x4051800000000000⟩)),
    .step (.call (.consume "b" 5 60 ⟨0x4051800000000000⟩)),
    .step (.call (.count "b" 10 ⟨0x4059000000000000⟩)),
    .step (.call (.count "c" 10 ⟨0x4059000000000000⟩)),
    .step (.call (.consume "d" 1 60 ⟨0x4051800000000000⟩))]

/-- At 110 seconds, the first event of one key has left its window, and nothing is left of another. -/
theorem sweep_exact_untidy :
    let s := (empty : WindowStore Double).after untidy
    let swept := (s.sweep ⟨0x405B800000000000⟩).1
    "a" ∈ swept.keys ∧ "b" ∉ swept.keys ∧
      swept.held "a" = [⟨0x4059000000000000⟩] ∧
      (s.sweep ⟨0x405B800000000000⟩).2 = 1 ∧ swept.sweep ⟨0x405B800000000000⟩ = (swept, 0) := by
  intro s swept
  obtain ⟨hkeys, hheld, hcount, hagain, -⟩ :=
    sweep_exact untidy (by decide +kernel) ⟨0x405B800000000000⟩
  refine ⟨(hkeys "a").mpr ⟨30, by decide +kernel, by decide +kernel⟩, fun hb => ?_, ?_, ?_, hagain⟩
  · obtain ⟨w, hw, t, ht, -⟩ := (hkeys "b").mp hb
    have hempty : s.held "b" = [] := by decide +kernel
    rw [hempty] at ht
    cases ht
  · refine (hheld "a" 30 (by decide +kernel)).2.trans ?_
    decide +kernel
  · refine hcount.trans ?_
    decide +kernel

end WindowStore

end AdmissionGate
