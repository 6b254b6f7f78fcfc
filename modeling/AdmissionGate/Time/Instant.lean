import AdmissionGate.Time.Duration

/-!
Instants. Windows and quotas ask few things of time: how two instants compare, which instant lies a
number of seconds back, and how many whole seconds an instant or a waiting time comes to. The class
`Instant` names these, so that windows can be run over doubles and reasoned about over exact numbers.
Seconds are 64-bit words, and conversions to them saturate.
-/

namespace AdmissionGate

/-- A kind of instants, in seconds since the epoch. -/
class Instant (τ : Type) where
  /-- The instant of a number of microseconds. -/
  ofMicros : UInt64 → τ
  /-- Whether one instant is not after another. -/
  notAfter : τ → τ → Bool
  /-- The instant a number of seconds before another. -/
  back : τ → UInt64 → τ
  /-- The whole seconds of an instant; instants before the epoch count as the epoch. -/
  wholeSeconds : τ → UInt64
  /-- The whole seconds, rounded up, until an entry made at `entry` is `window` seconds old; at
  least one. -/
  secondsUntil : (entry : τ) → (window : UInt64) → (now : τ) → UInt64

def maxWord : UInt64 := UInt64.ofNat (UInt64.size - 1)

/-- The sum of two words, or the largest word where that is out of range. -/
def addSaturating (a b : UInt64) : UInt64 :=
  if a.toNat + b.toNat < UInt64.size then a + b else maxWord

namespace Instant

/-- The number of nanoseconds in a second, as a value to compute with. -/
def nanosPerSecond : Float := 1000000000

/-- Doubles as instants: every operation rounds as usual, and a result that is no number or
infinite counts as no waiting at all. -/
instance : Instant Double where
  ofMicros m :=
    .ofFloat ((m / 1000000).toFloat + (m % 1000000 * 1000).toFloat / nanosPerSecond)
  notAfter a b := a.toFloat ≤ b.toFloat
  back now secs := .ofFloat (now.toFloat - secs.toFloat)
  wholeSeconds now :=
    let secs := now.toFloat
    if secs.isFinite && 0 < secs then secs.toUInt64 else 0
  secondsUntil entry window now :=
    let secs := (entry.toFloat + window.toFloat - now.toFloat).ceil
    if secs.isFinite && 1 ≤ secs then secs.toUInt64 else 1

end Instant

end AdmissionGate
