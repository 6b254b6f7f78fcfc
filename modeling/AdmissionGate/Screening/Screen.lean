import AdmissionGate.Form
import AdmissionGate.Json.Nesting
import AdmissionGate.Json.Parser
import AdmissionGate.Refusal
import AdmissionGate.Report.Event
import AdmissionGate.Screening.Finding
import AdmissionGate.Screening.Settings

/-!
Screening of requests. Headers, query, path parameters and body are checked in this order, and the
first refusal ends the check. In strict mode a suspicious value is a refusal; in lenient mode it is
a finding, and the check goes on. Strings inside of JSON are findings in either mode, since free
text is full of quotes and keywords.
-/

namespace AdmissionGate

/-- The result of a check: what was found on the way, and the refusal that ended it. -/
structure Verdict where
  findings : List Finding
  refusal? : Option Refusal
  deriving DecidableEq, Repr

namespace Verdict

def pass : Verdict := ⟨[], none⟩

def refuse (r : Refusal) : Verdict := ⟨[], some r⟩

/-- A value to report, which does not end the check. -/
def note (f : Finding) : Verdict := ⟨[f], none⟩

/-- One check and, unless it refuses, another. -/
def andThen (v : Verdict) (next : Verdict) : Verdict :=
  match v.refusal? with
  | some _ => v
  | none => ⟨v.findings ++ next.findings, next.refusal?⟩

def all : List Verdict → Verdict
  | [] => pass
  | v :: rest => v.andThen (all rest)

end Verdict

namespace Screening

open Verdict

/-- A suspicious value: a refusal in strict mode, a finding otherwise. -/
def suspect (s : ScreeningSettings) (r : Refusal) (f : Finding) : Verdict :=
  if s.strict then refuse r else note f

/-! ## Headers, query, path parameters -/

def headerValue (s : ScreeningSettings) (name : String) (value : Text.Bytes) : Verdict :=
  let text := Text.decodeLossy value
  match headerThreat text with
  | none => pass
  | some category => suspect s (.headerMalicious name) ⟨.header, name, category, text⟩

/-- The size of the headers, and each of their values. -/
def headers (s : ScreeningSettings) (r : Request) : Verdict :=
  if s.maxHeaderBytes < r.headers.byteSize then refuse .headerTooLarge
  else all (r.headers.fields.map fun (name, value) => headerValue s name value)

/-- The texts of a query that are looked at: the query as it is, and its decoded keys and values. -/
def queryCandidates (q : String) : List String :=
  q :: (Form.pairs (Text.encode q)).flatMap fun (key, value) => [key, value]

/-- The first text that holds a signature, with the category of the signature. -/
def firstInjection? (texts : List String) : Option (String × Category) :=
  texts.findSome? fun t => (injectionCategory t).map (t, ·)

/-- The length of the query, and the first of its texts that is suspicious. -/
def query (s : ScreeningSettings) (r : Request) : Verdict :=
  match r.query with
  | none => pass
  | some q =>
    if q.isEmpty then pass
    else if s.maxQueryBytes < q.utf8ByteSize then refuse .queryTooLong
    else
      match firstInjection? (queryCandidates q) with
      | none => pass
      | some (text, category) => suspect s .queryMalicious ⟨.query, "query", category, text⟩

/-- The length of a UUID in characters. -/
def uuidLength : Nat := 36

/-- One path parameter. A name with an id in it asks for a UUID if the value is as long as one, a
name with a slug in it for a slug; every other value is looked through. -/
def pathParam (s : ScreeningSettings) (name value : String) : Verdict :=
  let lowered := Text.lower name
  if Text.hasText "id" lowered && value.length == uuidLength then
    if isUuid value then pass else refuse (.pathParamInvalid name .uuid)
  else if Text.hasText "slug" lowered then
    if isSlug value then pass else refuse (.pathParamInvalid name .slug)
  else
    match injectionCategory value with
    | none => pass
    | some category =>
      suspect s (.pathParamInvalid name .injection) ⟨.pathParam, name, category, value⟩

def pathParams (s : ScreeningSettings) (r : Request) : Verdict :=
  all (r.pathParams.map fun (name, value) => pathParam s name value)

/-! ## Bodies -/

def memberName (s : ScreeningSettings) (name : String) : Verdict :=
  match injectionCategory name with
  | none => pass
  | some category =>
    suspect s (.bodyMalformed ("Potentially malicious JSON key: " ++ preview name))
      ⟨.jsonKey, name, category, name⟩

def jsonString (text : String) : Verdict :=
  match injectionCategory text with
  | none => pass
  | some category => note ⟨.jsonValue, "value", category, text⟩

mutual

/-- A JSON value at a depth, the names of members before their values. -/
def json (s : ScreeningSettings) (depth : Nat) : Json → Verdict
  | .object members =>
    if s.maxJsonDepth < depth then refuse .bodyTooDeep else jsonMembers s (depth + 1) members
  | .array items =>
    if s.maxJsonDepth < depth then refuse .bodyTooDeep else jsonItems s (depth + 1) items
  | .string text => if s.maxJsonDepth < depth then refuse .bodyTooDeep else jsonString text
  | .null => if s.maxJsonDepth < depth then refuse .bodyTooDeep else pass
  | .bool _ => if s.maxJsonDepth < depth then refuse .bodyTooDeep else pass
  | .number _ => if s.maxJsonDepth < depth then refuse .bodyTooDeep else pass

def jsonItems (s : ScreeningSettings) (depth : Nat) : List Json → Verdict
  | [] => pass
  | v :: rest => (json s depth v).andThen (jsonItems s depth rest)

def jsonMembers (s : ScreeningSettings) (depth : Nat) : List (String × Json) → Verdict
  | [] => pass
  | (name, v) :: rest =>
    (memberName s name).andThen ((json s depth v).andThen (jsonMembers s depth rest))

end

/-- A body of JSON text. The nesting is looked at before the text is read. -/
def jsonBody (s : ScreeningSettings) (body : Text.Bytes) : Verdict :=
  if Json.exceedsNesting body (s.maxJsonDepth + 1) then refuse .bodyTooDeep
  else
    match Json.parse? body with
    | none => refuse (.bodyMalformed "Invalid JSON in request body")
    | some v => json s 0 v.settle

/-- The body, if it is of a kind that is looked into. -/
def body (s : ScreeningSettings) (r : Request) : Verdict :=
  match BodyKind.of? r.method r.headers with
  | none => pass
  | some kind =>
    if s.maxBodyBytes < r.body.length then refuse .bodyTooLarge
    else
      match kind with
      | .form => pass
      | .json => jsonBody s r.body

/-! ## Requests -/

def request (s : ScreeningSettings) (r : Request) : Verdict :=
  (headers s r).andThen ((query s r).andThen ((pathParams s r).andThen (body s r)))

/-- The events that report the findings of a request. -/
def report (r : Request) (findings : List Finding) : List Event :=
  findings.flatMap fun f =>
    [.findingCounted f.category, .suspicious r.path r.method.name f]

end Screening

end AdmissionGate
