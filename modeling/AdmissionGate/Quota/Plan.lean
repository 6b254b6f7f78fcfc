import AdmissionGate.Quota.Decision
import AdmissionGate.Report.Event
import AdmissionGate.Window.Store

/-!
The calls that one request for quota makes, one after the other, each depending on the answers to
those before it. For every identifier the burst window is asked before the sustained one, and the
first window without room ends the request. If all have room, the sustained windows are counted once
more, and the least of what they leave is reported.

A plan says nothing about where its calls are answered: the same plan is run against one store or
two, on its own or among others.
-/

namespace AdmissionGate

/-- Calls to a counter store, and a decision at the end of them. -/
inductive Plan (τ : Type) where
  | done (decision : Decision) (events : List Event)
  | consume (key : String) (limit : TierLimit) (next : WindowOutcome τ → Plan τ)
  | count (key : String) (window : UInt64) (next : Nat → Plan τ)

namespace Plan

variable {τ : Type} [Instant τ]

/-- A window without room, seen at `now`. -/
def denial (limits : Limits) (now : τ) (tier : Tier) (i : Identifier) (o : WindowOutcome τ) :
    Plan τ :=
  let limit := limits.tier tier
  let wait := retryAfter o.oldest limit.window now
  .done (.deny ⟨tier, i⟩ wait limit.limit (Instant.wholeSeconds now))
    [.windowFull i tier o.count wait]

/-- Asks one window after the other for room, and goes on with `next` if all have some. -/
def consumeAll (limits : Limits) (now : τ) (next : Plan τ) : List (Identifier × Tier) → Plan τ
  | [] => next
  | (i, tier) :: rest =>
    .consume (windowKey tier i) (limits.tier tier) fun o =>
      if o.allowed then consumeAll limits now next rest else denial limits now tier i o

/-- What a limit leaves after `count` events. -/
def room (limit : UInt64) (count : Nat) : UInt64 :=
  UInt64.ofNat (limit.toNat - count)

/-- Counts the sustained windows and reports the least room among them. -/
def countAll (limits : Limits) (now : τ) (remaining : UInt64) : List Identifier → Plan τ
  | [] =>
    let sustained := limits.sustained
    .done
      (.allow remaining sustained.limit
        (addSaturating (Instant.wholeSeconds now) sustained.window))
      []
  | i :: rest =>
    .count (windowKey .sustained i) limits.sustained.window fun n =>
      countAll limits now (min remaining (room limits.sustained.limit n)) rest

/-- The windows of identifiers, in the order in which they are asked. -/
def windows (ids : List Identifier) : List (Identifier × Tier) :=
  ids.flatMap fun i => Tier.order.map (i, ·)

/-- The plan of a request for quota at `now`. -/
def ofIdentifiers (limits : Limits) (now : τ) (ids : List Identifier) : Plan τ :=
  consumeAll limits now (countAll limits now limits.sustained.limit ids) (windows ids)

end Plan

end AdmissionGate
