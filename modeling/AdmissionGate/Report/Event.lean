import AdmissionGate.Http.Message
import AdmissionGate.Refusal
import AdmissionGate.Screening.Finding

/-!
What happens while requests are handled, as far as it is reported: notices, each with a level and a
text, and updates of metrics. Every step of the gate gives its events in the order in which they
happen.
-/

namespace AdmissionGate

inductive Outcome where
  | bypassed
  | admitted
  | rateLimited
  | rejected
  deriving DecidableEq, Repr

def Outcome.name : Outcome → String
  | .bypassed => "bypassed"
  | .admitted => "admitted"
  | .rateLimited => "rate_limited"
  | .rejected => "rejected"

/-- The calls that a counter store takes. -/
inductive StoreOperation where
  | consume
  | count
  deriving DecidableEq, Repr

def StoreOperation.name : StoreOperation → String
  | .consume => "check_and_consume"
  | .count => "count"

/-- The request that a notice is about. -/
structure Subject where
  path : String
  method : String
  client : String
  deriving DecidableEq, Repr

inductive Event where
  /-- A suspicious value was let through. -/
  | suspicious (path method : String) (finding : Finding)
  /-- A request was denied for lack of quota. -/
  | denied (subject : Subject) (kind : String) (tier : Tier) (identifier : Identifier)
      (retryAfter : UInt64)
  /-- A request was refused by screening. -/
  | refused (subject : Subject) (strict : Bool) (refusal : Refusal)
  /-- A body could not be read to its end. -/
  | bodyUnread (error : BodyError)
  /-- A window had no room left. -/
  | windowFull (identifier : Identifier) (tier : Tier) (count : Nat) (retryAfter : UInt64)
  /-- The shared store answers again. -/
  | storeRecovered (backend : String)
  /-- The shared store still fails. -/
  | storeStillDown (operation : StoreOperation) (fault : StoreFault)
  /-- The shared store has begun to fail. -/
  | storeDown (operation : StoreOperation) (fault : StoreFault)
  /-- Buckets without events were dropped. -/
  | swept (removed remaining : Nat)
  /-- The background task swept. -/
  | sweepTick (removed : Nat)
  | sweepCancelled
  | sweepStopped
  | shutdownBegun
  | shutdownDone
  /-- The gate was set up. -/
  | configured (rateLimiting validation strict : Bool) (backend : String)
  /-- A knowledge item was taken in. -/
  | itemAccepted (id : String)
  /-- A request failed by a fault of the service. -/
  | failed (fault : ServiceFault)
  /-- A connection to the networked store came about. -/
  | storeConnected
  | storeOpened
  | storeUnreachable (fault : StoreFault)
  | storeOpenTimedOut (after : Duration)
  | storeClosed
  /-- Updates of metrics. -/
  | outcomeCounted (outcome : Outcome)
  | denialCounted (tier : Tier) (dimension : String)
  | rejectionCounted (kind : String)
  | findingCounted (category : Category)
  | fallbackCounted (reason : String)
  | callTimed (operation : StoreOperation)
  | availabilitySet (available : Bool)
  deriving DecidableEq, Repr

end AdmissionGate
