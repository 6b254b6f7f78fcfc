import AdmissionGate.Report.Event

/-!
The text of notices: a level, a message, and named fields.
-/

namespace AdmissionGate

inductive Level where
  | trace
  | debug
  | info
  | warn
  | error
  deriving DecidableEq, Repr

def Level.name : Level → String
  | .trace => "TRACE"
  | .debug => "DEBUG"
  | .info => "INFO"
  | .warn => "WARN"
  | .error => "ERROR"

inductive FieldValue where
  | text (s : String)
  | number (n : Nat)
  | flag (b : Bool)
  deriving DecidableEq, Repr

structure Notice where
  level : Level
  message : String
  fields : List (String × FieldValue)
  deriving DecidableEq, Repr

namespace Event

open FieldValue

/-- The notice of an event, unless the event is an update of a metric. -/
def notice? : Event → Option Notice
  | .suspicious path method f =>
    some ⟨.warn, "Suspicious input allowed through",
      [("path", text path), ("method", text method), ("location", text f.place.name),
        ("name", text f.name), ("category", text f.category.label),
        ("preview", text (preview f.value))]⟩
  | .denied s kind tier identifier retryAfter =>
    some ⟨.warn, "Rate limit exceeded",
      [("path", text s.path), ("method", text s.method), ("client_ip", text s.client),
        ("kind", text kind), ("tier", text tier.name), ("identifier", text identifier.render),
        ("retry_after_secs", number retryAfter.toNat)]⟩
  | .refused s strict refusal =>
    some ⟨.warn, "Input validation failed",
      [("path", text s.path), ("method", text s.method), ("client_ip", text s.client),
        ("kind", text refusal.kind), ("strict", flag strict), ("error", text refusal.message)]⟩
  | .bodyUnread error =>
    some ⟨.debug, "Failed to buffer request body", [("error", text error.message)]⟩
  | .windowFull identifier tier count retryAfter =>
    some ⟨.debug, "Rate limit window full",
      [("identifier", text identifier.render), ("tier", text tier.name), ("count", number count),
        ("retry_after", number retryAfter.toNat)]⟩
  | .storeRecovered backend =>
    some ⟨.info, "Shared counter store recovered, resuming distributed rate limiting",
      [("backend", text backend)]⟩
  | .storeStillDown operation fault =>
    some ⟨.debug, "Shared counter store still unavailable",
      [("op", text operation.name), ("error", text fault.message)]⟩
  | .storeDown operation fault =>
    some ⟨.warn, "Shared counter store unavailable, falling back to in-memory rate limiting",
      [("op", text operation.name), ("error", text fault.message),
        ("kind", text "store_unavailable")]⟩
  | .swept removed remaining =>
    some ⟨.debug, "Swept in-memory rate limit buckets",
      [("removed", number removed), ("remaining", number remaining)]⟩
  | .sweepTick removed => some ⟨.trace, "Fallback sweep tick", [("removed", number removed)]⟩
  | .sweepCancelled => some ⟨.debug, "Sweep task received cancellation signal", []⟩
  | .sweepStopped => some ⟨.debug, "Sweep task shutting down", []⟩
  | .shutdownBegun => some ⟨.info, "Initiating graceful shutdown of background tasks", []⟩
  | .shutdownDone => some ⟨.info, "All background tasks have completed", []⟩
  | .configured rateLimiting validation strict backend =>
    some ⟨.info, "Admission pipeline configured",
      [("rate_limiting", flag rateLimiting), ("validation", flag validation),
        ("strict", flag strict), ("backend", text backend)]⟩
  | .itemAccepted id => some ⟨.info, "Knowledge item accepted", [("id", text id)]⟩
  | .failed fault => some ⟨.error, "Request failed", [("error", text fault.message)]⟩
  | .storeConnected => some ⟨.debug, "Established shared counter store connection", []⟩
  | .storeOpened => some ⟨.info, "Connected to shared counter store", []⟩
  | .storeUnreachable fault =>
    some ⟨.warn, "Shared counter store unreachable at startup, will retry on demand",
      [("error", text fault.message)]⟩
  | .storeOpenTimedOut after =>
    some ⟨.warn, "Shared counter store connection timed out at startup, will retry on demand",
      [("timeout_ms", number after.millis)]⟩
  | .storeClosed => some ⟨.info, "Shared counter store closed", []⟩
  | .outcomeCounted _ => none
  | .denialCounted _ _ => none
  | .rejectionCounted _ => none
  | .findingCounted _ => none
  | .fallbackCounted _ => none
  | .callTimed _ => none
  | .availabilitySet _ => none

end Event

def notices (events : List Event) : List Notice :=
  events.filterMap Event.notice?

end AdmissionGate
