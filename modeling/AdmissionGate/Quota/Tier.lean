import AdmissionGate.Identity
import AdmissionGate.Time.Duration

/-!
The two tiers of a quota: a short burst window and a long sustained window, each with the number of
requests that it admits.
-/

namespace AdmissionGate

inductive Tier where
  | burst
  | sustained
  deriving DecidableEq, Repr

namespace Tier

def name : Tier → String
  | .burst => "burst"
  | .sustained => "sustained"

/-- The order in which the tiers of one identifier are checked. -/
def order : List Tier := [.burst, .sustained]

end Tier

/-- How many requests a window admits, and its length in seconds. -/
structure TierLimit where
  limit : UInt64
  window : UInt64
  deriving DecidableEq, Repr

/-- The limits of both tiers, and the longest that a call to a shared store may take. -/
structure Limits where
  sustained : TierLimit
  burst : TierLimit
  storeTimeout : Duration
  deriving DecidableEq, Repr

namespace Limits

/-- A hundred requests a minute, ten of them in one second. -/
def standard : Limits := ⟨⟨100, 60⟩, ⟨10, 1⟩, .ofMillis 250⟩

def tier (l : Limits) : Tier → TierLimit
  | .burst => l.burst
  | .sustained => l.sustained

end Limits

/-- The key of the window of an identifier in a tier. -/
def windowKey (t : Tier) (i : Identifier) : String :=
  t.name ++ ":" ++ i.render

end AdmissionGate
