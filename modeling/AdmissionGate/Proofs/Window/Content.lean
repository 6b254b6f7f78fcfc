import AdmissionGate.Proofs.Time.Lawful
import AdmissionGate.Window.Store

/-!
# What a store of windows holds

A store is seen through the events that it holds under each key (`WindowStore.held`) and the window
that each key was last asked for (`WindowStore.lastWindow?`). Every operation has one lemma for each
of these, and proofs about stores go through them only.

As long as all times can be compared, buckets keep their events in order (`WindowStore.Ordered`),
whatever the order of the calls. Then pruning from the front leaves exactly the events that are still
live, and a new event comes in at its place.
-/

namespace AdmissionGate

open Instant

/-! ## The view -/

namespace WindowStore

variable {τ : Type}

/-- The events under a key, as the store keeps them. -/
def held (s : WindowStore τ) (key : String) : List τ :=
  ((s.buckets.get? key).map Bucket.times).getD []

/-- The window that a key was last asked for, if it has a bucket. -/
def lastWindow? (s : WindowStore τ) (key : String) : Option UInt64 :=
  (s.buckets.get? key).map Bucket.window

@[simp] theorem held_empty (key : String) : (empty : WindowStore τ).held key = [] := rfl

@[simp] theorem lastWindow?_empty (key : String) :
    (empty : WindowStore τ).lastWindow? key = none := rfl

theorem times_bucket (s : WindowStore τ) (key : String) (window : UInt64) :
    (s.bucket key window).times = s.held key := by
  rw [bucket, held]
  cases s.buckets.get? key <;> rfl

/-- A bucket holds its own key's events, and leaves those of the others. -/
theorem held_put (s : WindowStore τ) (key key' : String) (b : Bucket τ) :
    (⟨s.buckets.put key b⟩ : WindowStore τ).held key'
      = if key = key' then b.times else s.held key' := by
  simp only [held, Table.get?_put]
  split <;> rfl

theorem lastWindow?_put (s : WindowStore τ) (key key' : String) (b : Bucket τ) :
    (⟨s.buckets.put key b⟩ : WindowStore τ).lastWindow? key'
      = if key = key' then some b.window else s.lastWindow? key' := by
  simp only [lastWindow?, Table.get?_put]
  split <;> rfl

end WindowStore

/-! ## Live events -/

variable {τ : Type} [Instant τ]

namespace Bucket

/-- Whether an event is inside a window at `now`. -/
def isLive (window : UInt64) (now t : τ) : Bool := !notAfter t (cutoff now window)

section Lawful

variable [LawfulInstant τ]

/-- Pruning drops exactly the events that have left the window. -/
theorem times_prune {b : Bucket τ} (h : Ascending b.times) (now : τ) :
    (b.prune now).times = b.times.filter (isLive b.window now) :=
  h.dropWhile_eq_filter (cutoff now b.window)

/-- An event goes behind those that are not after it. -/
theorem times_insert {b : Bucket τ} (h : Ascending b.times) (now : τ) :
    (b.insert now).times = place now b.times := by
  refine Ring.items_insertAt_partitionPoint now (h.eq_filter_append now) (fun t ht => ?_)
    fun t ht => ?_
  · exact (List.mem_filter.mp ht).2
  · simpa using (List.mem_filter.mp ht).2

/-- What is live at one instant and not at a later one has left its window for good. -/
theorem isLive_of_notAfter {window : UInt64} {now later t : τ} (h : NotAfter now later)
    (hlive : isLive window later t = true) : isLive window now t = true := by
  have hback : NotAfter (cutoff now window) (cutoff later window) :=
    LawfulInstant.back_mono window h
  rw [isLive, Bool.not_eq_true'] at hlive ⊢
  rw [← Bool.not_eq_true] at hlive ⊢
  exact fun hle => hlive (LawfulInstant.trans hle hback)

/-- What has left a window does not come back to it later. -/
theorem filter_isLive_filter_isLive {window : UInt64} {now later : τ} (h : NotAfter now later)
    (ts : List τ) :
    (ts.filter (isLive window now)).filter (isLive window later)
      = ts.filter (isLive window later) := by
  rw [List.filter_filter]
  refine List.filter_congr fun t _ => ?_
  cases hlive : isLive window later t with
  | false => rfl
  | true => rw [isLive_of_notAfter h hlive, Bool.and_true]

end Lawful

end Bucket

/-- The answer to an attempt to record an event at `now` in a window with `live` events. -/
def WindowOutcome.ofLive (limit : UInt64) (now : τ) (live : List τ) : WindowOutcome τ :=
  if live.length < limit.toNat then ⟨true, live.length + 1, earliest (place now live)⟩
  else ⟨false, live.length, earliest live⟩

/-- The events of a window with `live` events after an attempt to record one more at `now`. -/
def recorded (limit : UInt64) (now : τ) (live : List τ) : List τ :=
  if live.length < limit.toNat then place now live else live

/-- No window takes events in beyond its limit. -/
theorem length_recorded_le {limit : UInt64} {now : τ} {live : List τ}
    (h : live.length ≤ limit.toNat) : (recorded limit now live).length ≤ limit.toNat := by
  rw [recorded]
  split
  · next hroom =>
    rw [(place_perm now live).length_eq, List.length_cons]
    exact hroom
  · exact h

namespace WindowStore

/-- The events under a key that are inside a window at `now`. -/
def live (s : WindowStore τ) (key : String) (window : UInt64) (now : τ) : List τ :=
  (s.held key).filter (Bucket.isLive window now)

/-- Every bucket keeps its events in their order. -/
def Ordered (s : WindowStore τ) : Prop := ∀ key, Ascending (s.held key)

/-- Where nothing is held, nothing is out of order. -/
theorem ordered_empty : (empty : WindowStore τ).Ordered := fun _ => .nil

theorem Ordered.live {s : WindowStore τ} (h : s.Ordered) (key : String) (window : UInt64) (now : τ) :
    Ascending (s.live key window now) := (h key).filter _

/-- The bucket that `consume` works on: that of the key, looked at with the window of the call. -/
theorem times_pruned_bucket [LawfulInstant τ] {s : WindowStore τ} (h : s.Ordered) (key : String)
    (window : UInt64) (now : τ) :
    (((s.bucket key window).resize window).prune now).times = s.live key window now := by
  have htimes : ((s.bucket key window).resize window).times = s.held key :=
    times_bucket s key window
  rw [Bucket.times_prune (by rw [htimes]; exact h key), htimes]
  rfl

/-! ## Recording -/

section Consume

variable [LawfulInstant τ] {s : WindowStore τ} {key : String} {limit window : UInt64} {now : τ}

/-- The answer to `consume` depends on the live events of its key alone. -/
theorem consume_snd (h : s.Ordered) (hnow : IsTime now) :
    (s.consume key limit window now).2 = .ofLive limit now (s.live key window now) := by
  have htimes := times_pruned_bucket h key window now
  have hlive := h.live key window now
  simp only [consume, WindowOutcome.ofLive, htimes]
  by_cases hroom : (s.live key window now).length < limit.toNat
  · rw [if_neg (by omega), if_pos hroom, Bucket.times_insert (by rw [htimes]; exact hlive), htimes,
      (hlive.place hnow).earliest_eq_head?]
  · rw [if_pos (by omega), if_neg hroom, hlive.earliest_eq_head?]

/-- `consume` leaves the live events of its key, with one more where there is room, and no other key
is touched. -/
theorem held_consume (h : s.Ordered) (key' : String) :
    (s.consume key limit window now).1.held key'
      = if key = key' then recorded limit now (s.live key window now) else s.held key' := by
  have htimes := times_pruned_bucket h key window now
  simp only [consume, recorded, htimes]
  by_cases hroom : (s.live key window now).length < limit.toNat
  · rw [if_neg (by omega), if_pos hroom, held_put,
      Bucket.times_insert (by rw [htimes]; exact h.live key window now), htimes]
  · rw [if_pos (by omega), if_neg hroom, held_put, htimes]

/-- An event is recorded if fewer than the limit are live. -/
theorem allowed_eq (h : s.Ordered) (hnow : IsTime now) :
    (s.consume key limit window now).2.allowed
      = decide ((s.live key window now).length < limit.toNat) := by
  rw [consume_snd h hnow, WindowOutcome.ofLive]
  split
  · next hroom => exact (decide_eq_true hroom).symm
  · next hfull => exact (decide_eq_false hfull).symm

/-- An event that is recorded comes in at its place among the live ones. -/
theorem held_consume_of_allowed (h : s.Ordered) (hnow : IsTime now)
    (hallowed : (s.consume key limit window now).2.allowed = true) :
    (s.consume key limit window now).1.held key = place now (s.live key window now) := by
  rw [allowed_eq h hnow, decide_eq_true_eq] at hallowed
  rw [held_consume h, if_pos rfl, recorded, if_pos hallowed]

/-- An attempt that is denied leaves the live events and no more. -/
theorem held_consume_of_denied (h : s.Ordered) (hnow : IsTime now)
    (hdenied : (s.consume key limit window now).2.allowed = false) :
    (s.consume key limit window now).1.held key = s.live key window now := by
  rw [allowed_eq h hnow, decide_eq_false_iff_not] at hdenied
  rw [held_consume h, if_pos rfl, recorded, if_neg hdenied]

omit [LawfulInstant τ] in
/-- A call to record is for the window that the key has from then on. -/
theorem lastWindow?_consume (s : WindowStore τ) (key key' : String) (limit window : UInt64)
    (now : τ) :
    (s.consume key limit window now).1.lastWindow? key'
      = if key = key' then some window else s.lastWindow? key' := by
  simp only [consume]
  split <;> exact lastWindow?_put s key key' _

end Consume

/-! ## Counting -/

section Current

variable [LawfulInstant τ] {s : WindowStore τ} {key : String} {window : UInt64} {now : τ}

/-- A count is the number of live events. -/
theorem current_snd (h : s.Ordered) :
    (s.current key window now).2 = (s.live key window now).length := by
  have htimes := times_pruned_bucket h key window now
  unfold current
  rw [bucket] at htimes
  cases hb : s.buckets.get? key with
  | none => simp [live, held, hb]
  | some b =>
    rw [hb, Option.getD_some] at htimes
    rw [← htimes]

/-- Counting a window leaves its live events, and all others as they are. -/
theorem held_current (h : s.Ordered) (key' : String) :
    (s.current key window now).1.held key'
      = if key = key' then s.live key window now else s.held key' := by
  have htimes := times_pruned_bucket h key window now
  unfold current
  rw [bucket] at htimes
  cases hb : s.buckets.get? key with
  | none =>
    -- without a bucket nothing is created
    have hnothing : s.held key = [] := by simp [held, hb]
    show s.held key' = if key = key' then s.live key window now else s.held key'
    split
    · next heq => simp [live, ← heq, hnothing]
    · rfl
  | some b =>
    rw [hb, Option.getD_some] at htimes
    rw [held_put, htimes]

omit [LawfulInstant τ] in
/-- A count is for the window that a bucket has from then on, but makes no bucket. -/
theorem lastWindow?_current (s : WindowStore τ) (key key' : String) (window : UInt64) (now : τ) :
    (s.current key window now).1.lastWindow? key'
      = if key = key' then (s.lastWindow? key').map fun _ => window else s.lastWindow? key' := by
  unfold current
  cases hb : s.buckets.get? key with
  | none =>
    have hnone : s.lastWindow? key = none := by simp [lastWindow?, hb]
    show s.lastWindow? key'
      = if key = key' then (s.lastWindow? key').map fun _ => window else s.lastWindow? key'
    split
    · next heq => simp [← heq, hnone]
    · rfl
  | some b =>
    have hsome : s.lastWindow? key = some b.window := by simp [lastWindow?, hb]
    rw [lastWindow?_put]
    split
    · next heq => rw [← heq, hsome]; rfl
    · rfl

end Current

/-! ## Sweeping -/

section Sweep

variable [LawfulInstant τ] {s : WindowStore τ} {key : String} {now : τ}

/-- A sweep leaves the events that are live in the window that the key was last asked for. -/
theorem held_sweep (h : s.Ordered) {window : UInt64}
    (hwindow : ∀ w, s.lastWindow? key = some w → w = window) :
    (s.sweep now).1.held key = s.live key window now := by
  simp only [sweep, held, Table.get?_filterMap]
  cases hb : s.buckets.get? key with
  | none => simp [live, held, hb]
  | some b =>
    have hheld : s.held key = b.times := by simp [held, hb]
    have hlast : b.window = window := hwindow b.window (by simp [lastWindow?, hb])
    have htimes : (b.prune now).times = s.live key window now := by
      rw [Bucket.times_prune (by rw [← hheld]; exact h key), hlast, live, hheld]
    rw [Option.bind_some, ← htimes]
    -- a bucket is dropped only if nothing is left in it
    split
    · next hempty => simpa using hempty.symm
    · rfl

omit [LawfulInstant τ] in
theorem lastWindow?_of_sweep {w : UInt64} (hw : (s.sweep now).1.lastWindow? key = some w) :
    s.lastWindow? key = some w := by
  simp only [sweep, lastWindow?, Table.get?_filterMap, Option.map_eq_some_iff] at hw ⊢
  obtain ⟨b', hb', rfl⟩ := hw
  obtain ⟨b, hb, hkept⟩ := Option.bind_eq_some_iff.mp hb'
  refine ⟨b, hb, ?_⟩
  split at hkept
  · cases hkept
  · cases hkept
    rfl

end Sweep

/-! ## Membership -/

section Membership

variable [LawfulInstant τ] {s : WindowStore τ} {key key' : String} {now e : τ}

/-- Recording adds one event at most. -/
theorem mem_held_consume (h : s.Ordered) {limit window : UInt64}
    (he : e ∈ (s.consume key limit window now).1.held key') : e ∈ s.held key' ∨ e = now := by
  rw [held_consume h] at he
  split at he
  · next heq =>
    subst heq
    rw [recorded] at he
    split at he
    · rcases List.mem_cons.mp ((place_perm now _).mem_iff.mp he) with rfl | he
      · exact .inr rfl
      · exact .inl ((List.mem_filter.mp he).1)
    · exact .inl ((List.mem_filter.mp he).1)
  · exact .inl he

theorem mem_held_current (h : s.Ordered) {window : UInt64}
    (he : e ∈ (s.current key window now).1.held key') : e ∈ s.held key' := by
  rw [held_current h] at he
  split at he
  · next heq => exact heq ▸ (List.mem_filter.mp he).1
  · exact he

end Membership

/-! ## Order -/

section Order

variable [LawfulInstant τ] {s : WindowStore τ}

/-- Recording keeps the events in order. -/
theorem Ordered.consume (h : s.Ordered) {now : τ} (hnow : IsTime now) (key : String)
    (limit window : UInt64) : (s.consume key limit window now).1.Ordered := by
  intro key'
  rw [held_consume h]
  split
  · rw [recorded]
    split
    · exact (h.live key window now).place hnow
    · exact h.live key window now
  · exact h key'

theorem Ordered.current (h : s.Ordered) (now : τ) (key : String) (window : UInt64) :
    (s.current key window now).1.Ordered := by
  intro key'
  rw [held_current h]
  split
  · exact h.live key window now
  · exact h key'

/-- A sweep takes every window to be as long as it was at the last call. -/
theorem held_sweep_lastWindow (h : s.Ordered) (now : τ) (key : String) :
    (s.sweep now).1.held key = s.live key ((s.lastWindow? key).getD 0) now := by
  refine held_sweep h fun w hw => ?_
  rw [hw, Option.getD_some]

theorem Ordered.sweep (h : s.Ordered) (now : τ) : (s.sweep now).1.Ordered := by
  intro key
  rw [held_sweep_lastWindow h]
  exact h.live key _ now

theorem mem_held_sweep (h : s.Ordered) {key : String} {now e : τ}
    (he : e ∈ (s.sweep now).1.held key) : e ∈ s.held key := by
  rw [held_sweep_lastWindow h] at he
  exact (List.mem_filter.mp he).1

end Order

end WindowStore

end AdmissionGate
