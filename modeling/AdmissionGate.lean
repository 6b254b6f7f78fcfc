import AdmissionGate.Pattern.Printer
import AdmissionGate.Report.Metric
import AdmissionGate.Report.Notice
import AdmissionGate.Service.Basic
import AdmissionGate.Settings.Reader
import AdmissionGate.Shared.Networked
import AdmissionGate.Shared.Scripted
import AdmissionGate.Time.ManualClock
import AdmissionGate.Proofs.Time.Double
import AdmissionGate.Proofs.Window.Log
import AdmissionGate.Proofs.Quota.Failover
import AdmissionGate.Proofs.Time.Exact
import AdmissionGate.Proofs.Quota.Bound
import AdmissionGate.Proofs.Quota.Decide
import AdmissionGate.Proofs.Screening.Modes
import AdmissionGate.Proofs.Report.Counter
import AdmissionGate.Proofs.Admission.Outcome
import AdmissionGate.Proofs.Quota.Contention
import AdmissionGate.Proofs.Json.Scan
import AdmissionGate.Proofs.Json.Spelling
import AdmissionGate.Proofs.Json.Depth
import AdmissionGate.Proofs.Screening.Depth
import AdmissionGate.Proofs.Quota.Isolation
import AdmissionGate.Proofs.Quota.Overtaking
import AdmissionGate.Proofs.Quota.Retry
import AdmissionGate.Proofs.Quota.Outage
import AdmissionGate.Proofs.Pattern.Stretch
import AdmissionGate.Proofs.Text.Utf8
import AdmissionGate.Proofs.Text.Split
import AdmissionGate.Proofs.Form.Spelling
import AdmissionGate.Proofs.Form.Parts
import AdmissionGate.Proofs.Screening.Query
import AdmissionGate.Proofs.Json.Names
import AdmissionGate.Proofs.Screening.Names
import AdmissionGate.Proofs.Http.MediaType
import AdmissionGate.Proofs.Service.Intake
import AdmissionGate.Proofs.Screening.Demands
import AdmissionGate.Proofs.Quota.Reset
import AdmissionGate.Proofs.Shared.Sliding
import AdmissionGate.Proofs.Http.Header
import AdmissionGate.Proofs.Quota.Recount
import AdmissionGate.Proofs.Screening.Grounds
import AdmissionGate.Proofs.Admission.Decoration
import AdmissionGate.Proofs.Admission.Metering
import AdmissionGate.Proofs.Json.Outline
import AdmissionGate.Proofs.Screening.Strings
import AdmissionGate.Proofs.Text.Case
import AdmissionGate.Proofs.Screening.Threats
import AdmissionGate.Proofs.Shared.Lifecycle
import AdmissionGate.Proofs.Quota.Footprint
import AdmissionGate.Proofs.Admission.Buffering
import AdmissionGate.Proofs.Quota.Routing
import AdmissionGate.Proofs.Screening.Trail
import AdmissionGate.Proofs.Window.Sweep
import AdmissionGate.Proofs.Pattern.Recase
import AdmissionGate.Proofs.Settings.Range
import AdmissionGate.Proofs.Text.Lowered
import AdmissionGate.Proofs.Text.Language
import AdmissionGate.Proofs.Window.Capacity
import AdmissionGate.Proofs.Json.Grammar
import AdmissionGate.Proofs.Screening.Shapes
