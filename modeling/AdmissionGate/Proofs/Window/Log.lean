import AdmissionGate.Proofs.Time.Double
import AdmissionGate.Proofs.Window.Content

/-!
# Windows as a log

The plain idea of a sliding window is a log: every event ever recorded is kept, and a window counts
those that lie strictly above its cutoff (`EventLog`). The store in memory drops events, forgets
whole buckets and overwrites window lengths, and must not be told from the log by any answer.

* `Mirrors window since s L`: from the instant `since` on, the store `s` counts what the log `L`
  counts. Earlier instants are lost, since what has left a window is dropped for good.
* `Mirrors.consume`, `Mirrors.current`, `Mirrors.sweep`: every operation keeps the relation, and
  those that answer give the answer of the log.
* `answers_eq_log`: hence whole runs give the same answers, and sweeps cannot be noticed.
-/

namespace AdmissionGate

open Instant

/-! ## Calls as data -/

/-- A call that a counter store answers. -/
inductive StoreCall (τ : Type) where
  | consume (key : String) (limit window : UInt64) (now : τ)
  | count (key : String) (window : UInt64) (now : τ)

/-- What a store answers to a call. -/
inductive StoreAnswer (τ : Type) where
  | outcome (o : WindowOutcome τ)
  | count (n : Nat)

namespace StoreCall

variable {τ : Type}

/-- The key that a call is for. -/
def key : StoreCall τ → String
  | .consume key _ _ _ => key
  | .count key _ _ => key

/-- The window that a call is for. -/
def window : StoreCall τ → UInt64
  | .consume _ _ window _ => window
  | .count _ window _ => window

/-- The reading of the clock that a call goes by. -/
def time : StoreCall τ → τ
  | .consume _ _ _ now => now
  | .count _ _ now => now

end StoreCall

/-- A kind of counter store with states in `S`: how it records and how it counts. -/
structure Counter (S τ : Type) where
  consume : S → (key : String) → (limit window : UInt64) → (now : τ) → S × WindowOutcome τ
  count : S → (key : String) → (window : UInt64) → (now : τ) → S × Nat

/-- The state after a call, and the answer to it. -/
def Counter.answer {S τ : Type} (C : Counter S τ) (s : S) : StoreCall τ → S × StoreAnswer τ
  | .consume key limit window now =>
    ((C.consume s key limit window now).1, .outcome (C.consume s key limit window now).2)
  | .count key window now => ((C.count s key window now).1, .count (C.count s key window now).2)

/-- What can be done with a store in memory: calls, and sweeps that nobody waits for. -/
inductive StoreStep (τ : Type) where
  | call (c : StoreCall τ)
  | sweep (now : τ)

namespace StoreStep

variable {τ : Type}

/-- The reading of the clock at a step. -/
def time : StoreStep τ → τ
  | .call c => c.time
  | .sweep now => now

/-- The call that a step makes, if it makes one. -/
def call? : StoreStep τ → Option (StoreCall τ)
  | .call c => some c
  | .sweep _ => none

end StoreStep

variable {τ : Type} [Instant τ]

namespace WindowStore

/-- Calls to a store in memory. -/
def counter : Counter (WindowStore τ) τ := ⟨consume, current⟩

/-- The answers to the calls among some steps. -/
def answers (s : WindowStore τ) : List (StoreStep τ) → List (StoreAnswer τ)
  | [] => []
  | .call c :: rest => (counter.answer s c).2 :: answers (counter.answer s c).1 rest
  | .sweep now :: rest => answers (s.sweep now).1 rest

end WindowStore

/-! ## The log -/

/-- Every event that was ever recorded under a key, in the order of recording. -/
def EventLog (τ : Type) := String → List τ

namespace EventLog

/-- A log with no events. -/
def empty : EventLog τ := fun _ => []

/-- One more event under a key. -/
def add (L : EventLog τ) (key : String) (now : τ) : EventLog τ :=
  fun key' => if key = key' then L key ++ [now] else L key'

/-- The events under a key that lie strictly above the cutoff of a window. -/
def live (L : EventLog τ) (key : String) (window : UInt64) (now : τ) : List τ :=
  (L key).filter (Bucket.isLive window now)

/-- Records an event if fewer than `limit` are live. The answer counts the event itself. -/
def consume (L : EventLog τ) (key : String) (limit window : UInt64) (now : τ) :
    EventLog τ × WindowOutcome τ :=
  let live := L.live key window now
  if live.length < limit.toNat then
    (L.add key now, ⟨true, live.length + 1, earliest (live ++ [now])⟩)
  else (L, ⟨false, live.length, earliest live⟩)

/-- How many events of a window are live. Nothing is dropped. -/
def count (L : EventLog τ) (key : String) (window : UInt64) (now : τ) : EventLog τ × Nat :=
  (L, (L.live key window now).length)

/-- Calls to a log. -/
def counter : Counter (EventLog τ) τ := ⟨consume, count⟩

/-- The answers to the calls among some steps. A sweep is nothing to a log. -/
def answers (L : EventLog τ) : List (StoreStep τ) → List (StoreAnswer τ)
  | [] => []
  | .call c :: rest => (counter.answer L c).2 :: answers (counter.answer L c).1 rest
  | .sweep _ :: rest => answers L rest

omit [Instant τ] in
theorem add_apply (L : EventLog τ) (key key' : String) (now : τ) :
    L.add key now key' = if key = key' then L key ++ [now] else L key' := rfl

/-- A log goes on with the event if its window has room, and only under its key. -/
theorem consume_fst (L : EventLog τ) (key key' : String) (limit window : UInt64) (now : τ) :
    (L.consume key limit window now).1 key'
      = if (L.live key window now).length < limit.toNat then L.add key now key' else L key' := by
  simp only [consume]
  split <;> rfl

end EventLog

/-! ## A store that mirrors a log -/

/-- From `since` on, a store counts what a log counts, where every key is asked for its own window. -/
structure Mirrors (window : String → UInt64) (since : τ) (s : WindowStore τ) (L : EventLog τ) :
    Prop where
  lastWindow : ∀ {key w}, s.lastWindow? key = some w → w = window key
  ordered : s.Ordered
  ascending : ∀ key, Ascending (L key)
  past : ∀ key, ∀ t ∈ L key, NotAfter t since
  live : ∀ key {now}, NotAfter since now →
    s.live key (window key) now = L.live key (window key) now

namespace Mirrors

variable {window : String → UInt64} {since now : τ} {s : WindowStore τ} {L : EventLog τ}

/-- Nothing is held, and nothing was ever recorded. -/
theorem empty (window : String → UInt64) (since : τ) :
    Mirrors window since WindowStore.empty EventLog.empty where
  lastWindow h := by simp at h
  ordered := WindowStore.ordered_empty
  ascending _ := .nil
  past _ t ht := absurd ht (by simp [EventLog.empty])
  live _ _ _ := rfl

variable [LawfulInstant τ]

/-- The relation only gets weaker with time. -/
theorem later (h : Mirrors window since s L) (hnow : NotAfter since now) :
    Mirrors window now s L where
  lastWindow := h.lastWindow
  ordered := h.ordered
  ascending := h.ascending
  past key t ht := LawfulInstant.trans (h.past key t ht) hnow
  live key _ hlater := h.live key (LawfulInstant.trans hnow hlater)

/-- Recording an event keeps the relation and gives the answer of the log. -/
theorem consume (h : Mirrors window since s L) (hnow : NotAfter since now) (key : String)
    (limit : UInt64) :
    (s.consume key limit (window key) now).2 = (L.consume key limit (window key) now).2 ∧
      Mirrors window now (s.consume key limit (window key) now).1
        (L.consume key limit (window key) now).1 := by
  have htime : IsTime now := (LawfulInstant.isTime_of_notAfter hnow).2
  have hlive := h.live key hnow
  have hpast : ∀ t ∈ L key, NotAfter t now := (h.later hnow).past key
  -- nothing in the log is after `now`, so the new event comes in at the end
  have hplace : place now (L.live key (window key) now) = L.live key (window key) now ++ [now] :=
    place_eq_concat fun t ht => hpast t (List.mem_filter.mp ht).1
  constructor
  · rw [WindowStore.consume_snd h.ordered htime, hlive, WindowOutcome.ofLive, hplace]
    simp only [EventLog.consume]
    split <;> rfl
  · constructor
    · intro key' w hw
      rw [WindowStore.lastWindow?_consume] at hw
      split at hw
      · next heq => rw [← heq, ← Option.some.inj hw]
      · exact h.lastWindow hw
    · exact h.ordered.consume htime key limit (window key)
    · intro key'
      rw [EventLog.consume_fst]
      split
      · rw [EventLog.add_apply]
        split
        · exact (h.ascending key).concat htime hpast
        · exact h.ascending key'
      · exact h.ascending key'
    · intro key' t ht
      rw [EventLog.consume_fst] at ht
      split at ht
      · rw [EventLog.add_apply] at ht
        split at ht
        · rcases List.mem_append.mp ht with ht | ht
          · exact hpast t ht
          · exact List.mem_singleton.mp ht ▸ htime
        · exact (h.later hnow).past key' t ht
      · exact (h.later hnow).past key' t ht
    · -- what the store has pruned is still in the log, but is not live at `later`
      intro key' later hlater
      have hbefore := h.live key' (LawfulInstant.trans hnow hlater)
      rw [WindowStore.live, EventLog.live] at hbefore ⊢
      rw [WindowStore.held_consume h.ordered, EventLog.consume_fst, recorded, hlive, hplace]
      by_cases hkey : key = key'
      · subst hkey
        rw [if_pos rfl]
        split
        · rw [EventLog.add_apply, if_pos rfl, List.filter_append, List.filter_append,
            EventLog.live, Bucket.filter_isLive_filter_isLive hlater]
        · rw [EventLog.live, Bucket.filter_isLive_filter_isLive hlater]
      · rw [if_neg hkey, hbefore]
        split
        · rw [EventLog.add_apply, if_neg hkey]
        · rfl

/-- Counting keeps the relation and gives the answer of the log. -/
theorem current (h : Mirrors window since s L) (hnow : NotAfter since now) (key : String) :
    (s.current key (window key) now).2 = (L.count key (window key) now).2 ∧
      Mirrors window now (s.current key (window key) now).1 L := by
  have hlive := h.live key hnow
  constructor
  · rw [WindowStore.current_snd h.ordered, hlive, EventLog.count]
  · constructor
    · intro key' w hw
      rw [WindowStore.lastWindow?_current] at hw
      split at hw
      · next heq =>
        obtain ⟨_, -, rfl⟩ := Option.map_eq_some_iff.mp hw
        rw [heq]
      · exact h.lastWindow hw
    · exact h.ordered.current now key (window key)
    · exact h.ascending
    · exact (h.later hnow).past
    · intro key' later hlater
      have hbefore := h.live key' (LawfulInstant.trans hnow hlater)
      rw [WindowStore.live, EventLog.live] at hbefore ⊢
      rw [WindowStore.held_current h.ordered]
      split
      · next hkey =>
        rw [hlive, ← hkey, EventLog.live, Bucket.filter_isLive_filter_isLive hlater]
      · exact hbefore

/-- A sweep keeps the relation to the very same log. -/
theorem sweep (h : Mirrors window since s L) (hnow : NotAfter since now) :
    Mirrors window now (s.sweep now).1 L where
  lastWindow hw := h.lastWindow (WindowStore.lastWindow?_of_sweep hw)
  ordered := h.ordered.sweep now
  ascending := h.ascending
  past := (h.later hnow).past
  live key later hlater := by
    rw [WindowStore.live, WindowStore.held_sweep h.ordered fun w hw => h.lastWindow hw,
      WindowStore.live, Bucket.filter_isLive_filter_isLive hlater]
    exact h.live key (LawfulInstant.trans hnow hlater)

/-- A call for the window of its key is answered as by the log. -/
theorem answer (h : Mirrors window since s L) {c : StoreCall τ} (hnow : NotAfter since c.time)
    (hwindow : c.window = window c.key) :
    (WindowStore.counter.answer s c).2 = (EventLog.counter.answer L c).2 ∧
      Mirrors window c.time (WindowStore.counter.answer s c).1 (EventLog.counter.answer L c).1 := by
  cases c with
  | consume key limit w now =>
    obtain rfl : w = window key := hwindow
    obtain ⟨hanswer, hafter⟩ := h.consume hnow key limit
    exact ⟨congrArg StoreAnswer.outcome hanswer, hafter⟩
  | count key w now =>
    obtain rfl : w = window key := hwindow
    obtain ⟨hanswer, hafter⟩ := h.current hnow key
    exact ⟨congrArg StoreAnswer.count hanswer, hafter⟩

/-- A run in the order of time gives the answers of the log. -/
theorem answers (h : Mirrors window since s L) {steps : List (StoreStep τ)}
    (hsince : ∀ step ∈ steps, NotAfter since step.time)
    (horder : (steps.map StoreStep.time).Pairwise NotAfter)
    (hwindow : ∀ c, .call c ∈ steps → c.window = window c.key) :
    s.answers steps = L.answers steps := by
  induction steps generalizing since s L with
  | nil => rfl
  | cons step rest ih =>
    have hnow := hsince step (List.mem_cons_self ..)
    rw [List.map_cons, List.pairwise_cons] at horder
    have hrest : ∀ next ∈ rest, NotAfter step.time next.time :=
      fun next hnext => horder.1 next.time (List.mem_map_of_mem hnext)
    have hwindow' : ∀ c, .call c ∈ rest → c.window = window c.key :=
      fun c hc => hwindow c (List.mem_cons_of_mem _ hc)
    cases step with
    | call c =>
      obtain ⟨hanswer, hafter⟩ := h.answer hnow (hwindow c (List.mem_cons_self ..))
      rw [WindowStore.answers, EventLog.answers, hanswer, ih hafter hrest horder.2 hwindow']
    | sweep now =>
      exact ih (h.sweep hnow) hrest horder.2 hwindow'

end Mirrors

/-- A log does not see sweeps. -/
theorem EventLog.answers_filter_call (L : EventLog τ) (steps : List (StoreStep τ)) :
    L.answers (steps.filter (·.call?.isSome)) = L.answers steps := by
  induction steps generalizing L with
  | nil => rfl
  | cons step rest ih =>
    cases step with
    | call c =>
      rw [List.filter_cons_of_pos rfl, EventLog.answers, EventLog.answers, ih]
    | sweep now =>
      rw [List.filter_cons_of_neg (by simp [StoreStep.call?]), EventLog.answers, ih]

/-! ## Runs -/

/-- Calls that agree on the window of every key ask for a window that depends on the key. -/
theorem StoreCall.exists_window {τ : Type} {calls : List (StoreCall τ)}
    (h : ∀ c₁ ∈ calls, ∀ c₂ ∈ calls, c₁.key = c₂.key → c₁.window = c₂.window) :
    ∃ window : String → UInt64, ∀ c ∈ calls, c.window = window c.key := by
  refine ⟨fun key => ((calls.find? (·.key = key)).map StoreCall.window).getD 0, fun c hc => ?_⟩
  show c.window = ((calls.find? (·.key = c.key)).map StoreCall.window).getD 0
  cases hfind : calls.find? (·.key = c.key) with
  | none =>
    have := List.find?_eq_none.mp hfind c hc
    simp at this
  | some first =>
    have hkey : first.key = c.key := by simpa using List.find?_some hfind
    exact h c hc first (List.mem_of_find?_eq_some hfind) hkey.symm

/-- **A store in memory cannot be told from a log.** In any run from the empty store in the order of
time, where every key is always asked for the same window, every call is answered as by the log that
keeps everything; and taking the sweeps out of the run changes no answer. -/
theorem answers_eq_log [LawfulInstant τ] (steps : List (StoreStep τ))
    (htimes : Ascending (steps.map StoreStep.time))
    (hwindow : ∀ c₁ ∈ steps.filterMap StoreStep.call?, ∀ c₂ ∈ steps.filterMap StoreStep.call?,
      c₁.key = c₂.key → c₁.window = c₂.window) :
    WindowStore.empty.answers steps = EventLog.empty.answers steps ∧
      WindowStore.empty.answers (steps.filter (·.call?.isSome))
        = WindowStore.empty.answers steps := by
  obtain ⟨window, hkeyed⟩ := StoreCall.exists_window hwindow
  obtain ⟨since, hsince⟩ := htimes.exists_since
  -- for the run and for the run without its sweeps, both of which are in the order of time
  have hrun : ∀ part : List (StoreStep τ), part.Sublist steps →
      WindowStore.empty.answers part = EventLog.empty.answers part := by
    intro part hpart
    refine (Mirrors.empty window since).answers (fun step hstep => ?_)
      (htimes.pairwise.sublist (hpart.map StoreStep.time)) fun c hc => ?_
    · exact hsince _ (List.mem_map_of_mem (hpart.subset hstep))
    · exact hkeyed c (List.mem_filterMap.mpr ⟨_, hpart.subset hc, rfl⟩)
  refine ⟨hrun steps (List.Sublist.refl steps), ?_⟩
  rw [hrun _ List.filter_sublist, hrun steps (List.Sublist.refl steps),
    EventLog.answers_filter_call]

/-- A minute of doubles: two events, a sweep between them, a third one without room, and a count when
the first one leaves the window. -/
def minute : List (StoreStep Double) :=
  [.call (.consume "a" 2 60 ⟨0⟩), .sweep ⟨0x3FF0000000000000⟩,
    .call (.consume "a" 2 60 ⟨0x3FF0000000000000⟩), .call (.consume "a" 2 60 ⟨0x4049000000000000⟩),
    .call (.count "a" 60 ⟨0x404E000000000000⟩)]

/-- The minute is answered as the log would answer it, with its sweep and without. -/
theorem answers_eq_log_minute :
    WindowStore.empty.answers minute = EventLog.empty.answers minute ∧
      WindowStore.empty.answers (minute.filter (·.call?.isSome))
        = WindowStore.empty.answers minute :=
  answers_eq_log minute ⟨by decide +kernel, by decide +kernel⟩ (by decide +kernel)

end AdmissionGate
