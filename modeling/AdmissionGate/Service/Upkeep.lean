import AdmissionGate.Quota.Limiter
import AdmissionGate.Report.Event

/-!
The upkeep of a limiter in the background. Time is counted from the start of the service; each time
that a whole number of intervals has passed, the windows in memory are swept and it is told whether
the shared store can be relied on. A request that waits for a call gives way to upkeep, and goes on
before what falls due at the very end of its wait; that comes with the next wait.
-/

namespace AdmissionGate

/-- The upkeep of a limiter: how long it has been going on, its interval, for how many intervals it
has been done, and whether it has not been stopped. -/
structure Upkeep where
  elapsed : Duration
  interval : Duration
  done : Nat
  running : Bool
  deriving DecidableEq, Repr

/-- The time that a reported call took to no avail. -/
def Event.waited : Event → Nat
  | .storeDown _ (.timeout after) => after.nanos
  | .storeStillDown _ (.timeout after) => after.nanos
  | _ => 0

namespace Upkeep

variable {τ σ : Type} [Instant τ] [SharedStore σ τ]

def shortest : Duration := .ofMillis 1

def start (interval : Duration) : Upkeep :=
  ⟨⟨0⟩, ⟨max interval.nanos shortest.nanos⟩, 0, true⟩

/-- The number of intervals that end no later than some time from now. -/
def dueBy (u : Upkeep) (d : Duration) : Nat :=
  (u.elapsed.nanos + d.nanos) / u.interval.nanos

/-- The number of intervals that end sooner than some time from now. -/
def dueBefore (u : Upkeep) (d : Duration) : Nat :=
  (u.elapsed.nanos + d.nanos - 1) / u.interval.nanos

/-- What happens at the end of an interval. -/
def tick (now : τ) : Limiter.Change τ σ := fun l =>
  let (l, removed, events) := l.sweep now
  (l, events ++ .sweepTick removed :: l.sharedAvailable?.toList.map .availabilitySet)

/-- What happens at the end of several intervals. -/
def ticks (now : τ) : Nat → Limiter.Change τ σ
  | 0 => Limiter.unchanged
  | n + 1 => fun l =>
    let (l, first) := tick now l
    let (l, others) := ticks now n l
    (l, first ++ others)

/-- What happens to a limiter until upkeep has been done for `due` intervals. -/
def catchUp (u : Upkeep) (now : τ) (due : Nat) : Limiter.Change τ σ :=
  if u.running then ticks now (due - u.done) else Limiter.unchanged

/-- The upkeep some time later, done for `due` intervals at least. -/
def after (u : Upkeep) (d : Duration) (due : Nat) : Upkeep :=
  { u with elapsed := ⟨u.elapsed.nanos + d.nanos⟩, done := max u.done due }

/-- What happens to a limiter while a call waits in vain. -/
def duringWait (u : Upkeep) (now : τ) (d : Duration) : Limiter.Change τ σ :=
  u.catchUp now (u.dueBefore d)

/-- The upkeep after the calls that are reported. -/
def afterEvents (u : Upkeep) (events : List Event) : Upkeep :=
  let d : Duration := ⟨events.foldl (fun waited e => waited + e.waited) 0⟩
  u.after d (u.dueBefore d)

/-- What happens to a limiter while nothing else goes on. -/
def duringPause (u : Upkeep) (now : τ) (d : Duration) : Limiter.Change τ σ :=
  u.catchUp now (u.dueBy d)

def afterPause (u : Upkeep) (d : Duration) : Upkeep :=
  u.after d (u.dueBy d)

/-- The upkeep after it has been stopped, with what is reported of that. -/
def stop (u : Upkeep) : Upkeep × List Event :=
  ({ u with running := false }, if u.running then [.sweepCancelled, .sweepStopped] else [])

end Upkeep

end AdmissionGate
