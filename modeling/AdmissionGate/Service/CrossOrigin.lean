import AdmissionGate.Http.Message

/-!
Headers for requests that browsers make from other origins. Every answer says on which request
headers it depends and, if the origin is welcome, which origin may read it. A preflight is answered
for any method and any headers; other answers name the headers that a page may read.
-/

namespace AdmissionGate

open Text (Bytes)

namespace CrossOrigin

/-- What stands for all origins, methods or headers. -/
def wildcard : String := "*"

/-- The origin that may read the answer to a request: all, or the origin of the request if it is
listed. -/
def allowedOrigin? (origins : List String) (h : Headers) : Option Bytes :=
  if origins.contains wildcard then some (Text.encode wildcard)
  else (h.first? "origin").filter fun origin => (origins.map Text.encode).contains origin

/-- The request headers that answers depend on. -/
def dependsOn : String :=
  ", ".intercalate ["origin", "access-control-request-method", "access-control-request-headers"]

/-- The headers that a page from another origin may read. -/
def exposed : String :=
  ",".intercalate ["x-ratelimit-limit", "x-ratelimit-remaining", "x-ratelimit-reset"]

/-- Headers of an answer with what holds for all answers. -/
def withOrigin (origins : List String) (request answer : Headers) : Headers :=
  let answer := answer.setText "vary" dependsOn
  match allowedOrigin? origins request with
  | none => answer
  | some origin => answer.set "access-control-allow-origin" origin

/-- An answer as pages from other origins may read it. -/
def share (origins : List String) (request : Headers) (r : Response) : Response :=
  let headers := withOrigin origins request r.headers
  { r with headers := headers.setText "access-control-expose-headers" exposed }

/-- The answer to a preflight, with the methods of the endpoint if there is one. -/
def preflight (origins : List String) (request : Headers) (allow : Option String) : Response :=
  let headers := withOrigin origins request Table.empty
  let headers := headers.setText "access-control-allow-methods" wildcard
  let headers := headers.setText "access-control-allow-headers" wildcard
  match allow with
  | none => ⟨200, headers, []⟩
  | some allow => ⟨200, headers.setText "allow" allow, []⟩

end CrossOrigin

end AdmissionGate
