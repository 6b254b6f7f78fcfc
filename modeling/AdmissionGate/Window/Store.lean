import AdmissionGate.Data.Ring
import AdmissionGate.Data.Table
import AdmissionGate.Time.Instant

/-!
Sliding windows in memory. A `Bucket` holds the instants of one key's recent events in ascending
order; whatever is no longer inside the window is dropped from its front before anything else is
done. A `WindowStore` keeps a bucket for each key.
-/

namespace AdmissionGate

/-- The answer to an attempt to record an event: whether it was recorded, how many events the window
holds after that, and the oldest of them. -/
structure WindowOutcome (τ : Type) where
  allowed : Bool
  count : Nat
  oldest : Option τ
  deriving DecidableEq, Repr

/-- The events of one key, and the length of the window that was last asked for. -/
structure Bucket (τ : Type) where
  window : UInt64
  events : Ring τ
  deriving DecidableEq, Repr

namespace Bucket

variable {τ : Type} [Instant τ]

def fresh (window : UInt64) : Bucket τ := ⟨window, .empty⟩

/-- The instants of the events in their order. -/
def times (b : Bucket τ) : List τ := b.events.items

/-- The last instant that is outside of a window of `window` seconds. -/
def cutoff (now : τ) (window : UInt64) : τ := Instant.back now window

/-- Drops the events at the front that have left the window. -/
def prune (b : Bucket τ) (now : τ) : Bucket τ :=
  { b with events := b.events.dropWhile (Instant.notAfter · (cutoff now b.window)) }

/-- Records an event after those that are not later. -/
def insert (b : Bucket τ) (now : τ) : Bucket τ :=
  { b with events := b.events.insertAt (b.events.partitionPoint (Instant.notAfter · now)) now }

/-- Looks at the bucket with a window of another length. -/
def resize (b : Bucket τ) (window : UInt64) : Bucket τ := { b with window }

end Bucket

/-- Buckets by key. -/
structure WindowStore (τ : Type) where
  buckets : Table String (Bucket τ)

namespace WindowStore

variable {τ : Type} [Instant τ]

def empty : WindowStore τ := ⟨Table.empty⟩

def size (s : WindowStore τ) : Nat := s.buckets.size

/-- The bucket of a key; without one, an empty bucket. -/
def bucket (s : WindowStore τ) (key : String) (window : UInt64) : Bucket τ :=
  (s.buckets.get? key).getD (.fresh window)

/-- Records an event if the window holds fewer than `limit`. A bucket is made in any case. -/
def consume (s : WindowStore τ) (key : String) (limit window : UInt64) (now : τ) :
    WindowStore τ × WindowOutcome τ :=
  let b := ((s.bucket key window).resize window).prune now
  let count := b.times.length
  if limit.toNat ≤ count then
    (⟨s.buckets.put key b⟩, ⟨false, count, b.times.head?⟩)
  else
    let b := b.insert now
    (⟨s.buckets.put key b⟩, ⟨true, count + 1, b.times.head?⟩)

/-- The number of events in a window. No bucket is made for a key without one. -/
def current (s : WindowStore τ) (key : String) (window : UInt64) (now : τ) :
    WindowStore τ × Nat :=
  match s.buckets.get? key with
  | none => (s, 0)
  | some b =>
    let b := (b.resize window).prune now
    (⟨s.buckets.put key b⟩, b.times.length)

/-- Drops the buckets without events inside their windows, and tells how many they were. -/
def sweep (s : WindowStore τ) (now : τ) : WindowStore τ × Nat :=
  let swept := s.buckets.filterMap fun b =>
    let b := b.prune now
    if b.times.isEmpty then none else some b
  (⟨swept⟩, s.size - swept.size)

def close (_ : WindowStore τ) : WindowStore τ := empty

/-- The name of this kind of store. -/
def backendName : String := "memory"

end WindowStore

end AdmissionGate
