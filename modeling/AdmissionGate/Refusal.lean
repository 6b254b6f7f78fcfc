import AdmissionGate.Quota.Tier
import AdmissionGate.Http.Message
import AdmissionGate.Shared.Fault

/-!
Why requests are refused, and what a refused client is told. A `Refusal` is the client's affair or a
lack of quota; a `ServiceFault` is a mistake of the service itself, of which the client learns no
more than its kind.
-/

namespace AdmissionGate

/-- The rule that a path parameter breaks. -/
inductive ParamRule where
  | uuid
  | slug
  | injection
  deriving DecidableEq, Repr

def ParamRule.name : ParamRule → String
  | .uuid => "uuid"
  | .slug => "slug"
  | .injection => "injection"

inductive Refusal where
  | rateLimited (tier : Tier) (retryAfter limit resetEpoch : UInt64)
  | headerTooLarge
  | headerMalicious (name : String)
  | queryTooLong
  | queryMalicious
  | pathParamInvalid (name : String) (rule : ParamRule)
  | bodyTooLarge
  | bodyMalformed (text : String)
  | bodyTooDeep
  | storeUnavailable (recovered : Bool)
  deriving DecidableEq, Repr

def digitsOf (n : UInt64) : String := toString n.toNat

namespace Refusal

/-- The wording of a refusal in reports. -/
def message : Refusal → String
  | .rateLimited tier retryAfter _ _ =>
    "Rate limit exceeded on " ++ tier.name ++ " tier, retry after " ++ digitsOf retryAfter ++ "s"
  | .headerTooLarge => "Request headers too large"
  | .headerMalicious name => "Invalid header value for " ++ name
  | .queryTooLong => "Query string too long"
  | .queryMalicious => "Potentially malicious query parameters detected"
  | .pathParamInvalid name rule => "Invalid path parameter " ++ name ++ " (" ++ rule.name ++ ")"
  | .bodyTooLarge => "Request body too large"
  | .bodyMalformed text => "Malformed request body: " ++ text
  | .bodyTooDeep => "JSON structure too deep"
  | .storeUnavailable recovered =>
    "Counter store unavailable (recovered: " ++ (if recovered then "true" else "false") ++ ")"

def status : Refusal → Nat
  | .rateLimited .. => 429
  | .headerTooLarge => 431
  | .queryTooLong => 414
  | .bodyTooLarge => 413
  | .headerMalicious _ => 400
  | .queryMalicious => 400
  | .pathParamInvalid _ _ => 400
  | .bodyMalformed _ => 400
  | .bodyTooDeep => 400
  | .storeUnavailable _ => 503

/-- The stable code that a client can read. -/
def code : Refusal → String
  | .rateLimited .. => "rate_limit_exceeded"
  | .storeUnavailable _ => "service_unavailable"
  | _ => "validation_error"

/-- The kind of a refusal, for counting and in reports. -/
def kind : Refusal → String
  | .rateLimited .. => "rate_limited"
  | .headerTooLarge => "header_too_large"
  | .headerMalicious _ => "header_malicious"
  | .queryTooLong => "query_too_long"
  | .queryMalicious => "query_malicious"
  | .pathParamInvalid _ _ => "path_param_invalid"
  | .bodyTooLarge => "body_too_large"
  | .bodyMalformed _ => "body_malformed"
  | .bodyTooDeep => "body_too_deep"
  | .storeUnavailable _ => "store_unavailable"

/-- The wording that a client is shown. -/
def clientMessage : Refusal → String
  | .rateLimited .burst _ _ _ => "Too many requests in a short period. Please slow down."
  | .rateLimited .sustained _ _ _ => "Rate limit exceeded. Please try again later."
  | .pathParamInvalid name .uuid => "Invalid UUID format for " ++ name
  | .pathParamInvalid name .slug => "Invalid slug format for " ++ name
  | .pathParamInvalid name .injection => "Potentially malicious path parameter: " ++ name
  | .storeUnavailable _ => "Service is temporarily unavailable. Please try again later."
  | r => r.message

end Refusal

def problem (code message : String) (retryAfter : Option UInt64) : Json :=
  .object ([("error", .string code), ("message", .string message)]
    ++ retryAfter.toList.map fun n => ("retry_after", .nat n.toNat))

/-- Puts the quota of an answer into its headers. -/
def withQuota (h : Headers) (limit remaining resetEpoch : UInt64) : Headers :=
  ((h.setText "x-ratelimit-limit" (digitsOf limit)).setText "x-ratelimit-remaining"
    (digitsOf remaining)).setText "x-ratelimit-reset" (digitsOf resetEpoch)

def Refusal.response (r : Refusal) : Response :=
  match r with
  | .rateLimited _ retryAfter limit resetEpoch =>
    let answer := Response.json r.status (problem r.code r.clientMessage (some retryAfter))
    let headers := answer.headers.setText "retry-after" (digitsOf retryAfter)
    { answer with headers := withQuota headers limit 0 resetEpoch }
  | _ => Response.json r.status (problem r.code r.clientMessage none)

inductive ServiceFault where
  | configuration (text : String)
  | store (fault : StoreFault)
  | internal (text : String)
  deriving DecidableEq, Repr

namespace ServiceFault

/-- The wording of a fault in reports. -/
def message : ServiceFault → String
  | .configuration text => "Configuration error: " ++ text
  | .store fault => "Counter store error: " ++ fault.message
  | .internal text => "Internal server error: " ++ text

/-- The answer to a client, which gives no details. -/
def response : ServiceFault → Response
  | .configuration _ =>
    .json 500 (problem "config_error" "Service configuration error. Please contact support." none)
  | .store _ =>
    .json 503 (problem "service_unavailable"
      "Service is temporarily unavailable. Please try again later." none)
  | .internal _ =>
    .json 500 (problem "internal_error"
      "An internal error occurred. Please contact support if the issue persists." none)

end ServiceFault

end AdmissionGate
