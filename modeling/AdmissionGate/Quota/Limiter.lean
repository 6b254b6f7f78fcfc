import AdmissionGate.Quota.Plan
import AdmissionGate.Shared.Store

/-!
The rate limiter: windows in memory, and in front of them possibly a shared store. A request for
quota begins with the shared store; from the first call that fails on it stays with the windows in
memory. A limiter whose last shared call failed is degraded, and reports when that begins and ends.

A call that is not answered takes its time. What goes on with the limiter meanwhile is a parameter of
every request, so that upkeep in the background can be told in its place.
-/

namespace AdmissionGate

/-- A rate limiter over instants of `τ` with a shared store of states in `σ`. -/
structure Limiter (τ σ : Type) where
  limits : Limits
  shared : Option σ
  fallback : WindowStore τ
  degraded : Bool

namespace Limiter

variable {τ σ : Type} [Instant τ] [SharedStore σ τ]

def start (limits : Limits) (shared : Option σ) : Limiter τ σ :=
  ⟨limits, shared, WindowStore.empty, false⟩

/-- The name of the store that is asked first. -/
def backend (l : Limiter τ σ) : String :=
  match l.shared with
  | none => WindowStore.backendName
  | some s => SharedStore.backend s

/-- Whether the shared store can be relied on, if there is one. -/
def sharedAvailable? (l : Limiter τ σ) : Option Bool :=
  l.shared.map fun s => SharedStore.isAvailable s && !l.degraded

/-! ## One request for quota -/

/-- What happens to a limiter, and is reported. -/
abbrev Change (τ σ : Type) := Limiter τ σ → Limiter τ σ × List Event

def unchanged : Change τ σ := fun l => (l, [])

/-- A request for quota on its way: the limiter, what happens to it while a call waits in vain,
whether the shared store is still asked, and what has been reported. -/
structure Session (τ σ : Type) where
  limiter : Limiter τ σ
  meanwhile : Change τ σ
  useShared : Bool
  events : List Event

namespace Session

def report (s : Session τ σ) (events : List Event) : Session τ σ :=
  { s with events := s.events ++ events }

/-- Takes note of a shared call that succeeded. -/
def recover (s : Session τ σ) (operation : StoreOperation) : Session τ σ :=
  let events : List Event :=
    if s.limiter.degraded then [.storeRecovered s.limiter.backend, .availabilitySet true] else []
  { s with limiter := { s.limiter with degraded := false } }.report (.callTimed operation :: events)

/-- Takes note of a shared call that failed; the rest of the request stays in memory. -/
def fallBack (s : Session τ σ) (operation : StoreOperation) (fault : StoreFault) : Session τ σ :=
  let events : List Event :=
    if s.limiter.degraded then [.storeStillDown operation fault]
    else [.storeDown operation fault, .availabilitySet false]
  { s with limiter := { s.limiter with degraded := true }, useShared := false }.report
    (.callTimed operation :: .fallbackCounted fault.reason :: events)

/-- Waits for a call until its time is over. -/
def wait (s : Session τ σ) : Session τ σ :=
  let (limiter, events) := s.meanwhile s.limiter
  { s with limiter }.report events

/-- Makes a shared call and takes note of what comes of it. -/
def ask {α : Type} (s : Session τ σ) (store : σ) (operation : StoreOperation)
    (call : σ → σ × Reply α) : Session τ σ × Option α :=
  let (store, reply) := call store
  let s := { s with limiter := { s.limiter with shared := some store } }
  match reply with
  | .answer a => (s.recover operation, some a)
  | .fault fault => (s.fallBack operation fault, none)
  | .silence => (s.wait.fallBack operation (.timeout s.limiter.limits.storeTimeout), none)

/-- Makes a call to the shared store, if it is still asked. -/
def tryShared {α : Type} (s : Session τ σ) (operation : StoreOperation)
    (call : σ → σ × Reply α) : Session τ σ × Option α :=
  match s.useShared, s.limiter.shared with
  | true, some store => s.ask store operation call
  | _, _ => (s, none)

/-- Makes a call to the windows in memory. -/
def inMemory {α : Type} (s : Session τ σ) (call : WindowStore τ → WindowStore τ × α) :
    Session τ σ × α :=
  let (fallback, a) := call s.limiter.fallback
  ({ s with limiter := { s.limiter with fallback } }, a)

/-- Makes a call to the shared store, or to the windows in memory if that gives no answer. -/
def call {α : Type} (s : Session τ σ) (operation : StoreOperation) (shared : σ → σ × Reply α)
    (own : WindowStore τ → WindowStore τ × α) : Session τ σ × α :=
  match s.tryShared operation shared with
  | (s, some a) => (s, a)
  | (s, none) => s.inMemory own

def run (now : τ) (s : Session τ σ) : Plan τ → Session τ σ × Decision
  | .done decision events => (s.report events, decision)
  | .consume key limit next =>
    let (s, o) :=
      s.call .consume (SharedStore.consume · key limit.limit limit.window now)
        (·.consume key limit.limit limit.window now)
    run now s (next o)
  | .count key window next =>
    let (s, n) := s.call .count (SharedStore.count · key window now) (·.current key window now)
    run now s (next n)

end Session

/-- Asks for quota for every identifier at `now`. -/
def requestQuota (l : Limiter τ σ) (now : τ) (ids : List Identifier)
    (meanwhile : Change τ σ := unchanged) : Limiter τ σ × Decision × List Event :=
  let (s, d) :=
    Session.run now ⟨l, meanwhile, l.shared.isSome, []⟩ (Plan.ofIdentifiers l.limits now ids)
  (s.limiter, d, s.events)

/-! ## Upkeep -/

/-- Drops the buckets in memory that have no events any more, and tells how many they were. -/
def sweep (l : Limiter τ σ) (now : τ) : Limiter τ σ × Nat × List Event :=
  let (fallback, removed) := l.fallback.sweep now
  ({ l with fallback }, removed, [.swept removed fallback.size])

/-- Gives up the shared store and drops every window in memory. -/
def close (l : Limiter τ σ) : Limiter τ σ :=
  { l with shared := l.shared.map SharedStore.close, fallback := l.fallback.close }

/-- The events in one window in memory. -/
def current (l : Limiter τ σ) (key : String) (window : UInt64) (now : τ) : Limiter τ σ × Nat :=
  let (fallback, n) := l.fallback.current key window now
  ({ l with fallback }, n)

/-- A limit as it is shown for inspection. -/
def describeLimit (l : TierLimit) : String :=
  "TierLimit \x7b limit: " ++ digitsOf l.limit ++ ", window_secs: " ++ digitsOf l.window ++ " \x7d"

/-- A limiter as it is shown for inspection. -/
def describe (l : Limiter τ σ) : String :=
  let shared :=
    match l.shared with
    | none => "None"
    | some s => "Some(\"" ++ SharedStore.backend s ++ "\")"
  "RateLimiter \x7b config: RateLimitConfig \x7b sustained: " ++ describeLimit l.limits.sustained
    ++ ", burst: " ++ describeLimit l.limits.burst
    ++ ", store_timeout: " ++ l.limits.storeTimeout.render ++ " \x7d, shared: " ++ shared
    ++ ", fallback_buckets: " ++ toString l.fallback.size
    ++ ", degraded: " ++ (if l.degraded then "true" else "false") ++ " \x7d"

end Limiter

end AdmissionGate
