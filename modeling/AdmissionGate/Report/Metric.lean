import AdmissionGate.Report.Event
import AdmissionGate.Data.Table

/-!
Metrics. A metric is known by a name and labels in alphabetical order. A counter and the number of
samples of a histogram grow, a gauge is set; `Metrics.ofEvents` gives what a stretch of events comes
to for every metric that it touches.
-/

namespace AdmissionGate

/-- What an event does to a metric. -/
inductive MetricUpdate where
  | increment
  | set (value : Nat)
  deriving DecidableEq, Repr

/-- The written form of a metric: its name and, if it has any, its labels. -/
def metricKey (name : String) (labels : List (String × String)) : String :=
  if labels.isEmpty then name
  else
    name ++ "\x7b" ++ ",".intercalate (labels.map fun (k, v) => k ++ "=" ++ v) ++ "\x7d"

namespace Event

/-- The metric that an event updates, and how. -/
def update? : Event → Option (String × MetricUpdate)
  | .outcomeCounted o =>
    some (metricKey "admission_requests_total" [("outcome", o.name)], .increment)
  | .denialCounted tier dimension =>
    some (metricKey "admission_rate_limited_total"
      [("dimension", dimension), ("tier", tier.name)], .increment)
  | .rejectionCounted kind =>
    some (metricKey "admission_validation_rejections_total" [("kind", kind)], .increment)
  | .findingCounted category =>
    some (metricKey "admission_validation_warnings_total" [("category", category.label)],
      .increment)
  | .fallbackCounted reason =>
    some (metricKey "admission_store_fallbacks_total" [("reason", reason)], .increment)
  | .callTimed operation =>
    some (metricKey "admission_store_duration_seconds" [("op", operation.name)], .increment)
  | .availabilitySet available =>
    some ("admission_store_available", .set (if available then 1 else 0))
  | _ => none

end Event

/-- The values of metrics, in the order in which they were first touched. -/
abbrev Metrics := Table String Nat

namespace Metrics

def apply (m : Metrics) : String × MetricUpdate → Metrics
  | (key, .increment) => m.put key ((m.get? key).getD 0 + 1)
  | (key, .set value) => m.put key value

def ofEvents (events : List Event) : Metrics :=
  (events.filterMap Event.update?).foldl apply Table.empty

end Metrics

end AdmissionGate
