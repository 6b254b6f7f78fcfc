import AdmissionGate.Time.Instant

/-!
A clock that stands still until it is moved. It counts microseconds in a word: durations beyond its
range are cut to the largest word, and moving it forward wraps around.
-/

namespace AdmissionGate

/-- A clock that is moved by hand. -/
structure ManualClock where
  micros : UInt64
  deriving DecidableEq, Repr

namespace ManualClock

/-- The microseconds of a duration, at most the largest word. -/
def wordOf (d : Duration) : UInt64 :=
  if d.micros < UInt64.size then d.micros.toUInt64 else maxWord

/-- A clock that stands at a time after the epoch. -/
def startingAt (d : Duration) : ManualClock := ⟨wordOf d⟩

def advance (c : ManualClock) (d : Duration) : ManualClock := ⟨c.micros + wordOf d⟩

/-- The instant at which the clock stands. -/
def now (c : ManualClock) (τ : Type) [Instant τ] : τ := Instant.ofMicros c.micros

end ManualClock

end AdmissionGate
