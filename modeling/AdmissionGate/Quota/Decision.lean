import AdmissionGate.Quota.Tier
import AdmissionGate.Refusal
import AdmissionGate.Time.Instant

/-!
The answer to a request for quota: what is left, when it is whole again, and, where the request is
denied, which window had no room.
-/

namespace AdmissionGate

structure Denial where
  tier : Tier
  identifier : Identifier
  deriving DecidableEq, Repr

/-- The answer to a request for quota. -/
structure Decision where
  allowed : Bool
  /-- Seconds until there is room again; zero if there is. -/
  retryAfter : UInt64
  remaining : UInt64
  limit : UInt64
  /-- The second at which the quota is whole again. -/
  resetEpoch : UInt64
  denied : Option Denial
  deriving DecidableEq, Repr

namespace Decision

def allow (remaining limit resetEpoch : UInt64) : Decision :=
  ⟨true, 0, remaining, limit, resetEpoch, none⟩

/-- A window without room, seen at the second `epoch`. -/
def deny (denial : Denial) (retryAfter limit epoch : UInt64) : Decision :=
  ⟨false, retryAfter, 0, limit, addSaturating epoch retryAfter, some denial⟩

/-- The refusal of a request that a window had no room for. -/
def refusal (d : Decision) (denial : Denial) : Refusal :=
  .rateLimited denial.tier d.retryAfter d.limit d.resetEpoch

/-- The refusal of a request, if it is denied. -/
def refusal? (d : Decision) : Option Refusal :=
  d.denied.map d.refusal

end Decision

/-- Seconds until the oldest event leaves a window, at least one; without an oldest event, the
length of the window. -/
def retryAfter {τ : Type} [Instant τ] (oldest : Option τ) (window : UInt64) (now : τ) : UInt64 :=
  match oldest with
  | none => if window = 0 then 1 else window
  | some entry => Instant.secondsUntil entry window now

end AdmissionGate
