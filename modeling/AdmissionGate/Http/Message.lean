import AdmissionGate.Http.Address
import AdmissionGate.Http.Target
import AdmissionGate.Json.Printer

/-!
Requests and responses. A request has a method, a path, a query, headers, the parameters of the matched
route, a body, and the address of the peer. Its body is read after the rest, and may break off.
-/

namespace AdmissionGate

open Text (Bytes)

/-- A request method: a token. The case of its letters counts. -/
structure Method where
  name : String
  isToken : AdmissionGate.isToken name.toList = true := by decide
  deriving DecidableEq

namespace Method

def get : Method where name := "GET"
def head : Method where name := "HEAD"
def post : Method where name := "POST"
def put : Method where name := "PUT"
def patch : Method where name := "PATCH"
def options : Method where name := "OPTIONS"
def connect : Method where name := "CONNECT"

def ofName? (name : String) : Option Method :=
  if h : AdmissionGate.isToken name.toList = true then some ⟨name, h⟩ else none

end Method

/-- Why a body cannot be read to its end. -/
inductive BodyError where
  /-- More octets come than may be read. -/
  | overlong
  /-- The connection fails before the body has ended. -/
  | broken (error : String)
  deriving DecidableEq, Repr

def BodyError.message : BodyError → String
  | .overlong => "length limit exceeded"
  | .broken error => error

structure Request where
  method : Method
  path : String
  query : Option String
  headers : Headers
  pathParams : List (String × String)
  /-- The octets of the body that come in. -/
  body : Bytes
  peer : Option Address
  /-- The error that the connection fails with after these octets, if the body does not end there. -/
  bodyFault : Option String := none

namespace Request

/-- A request for a path and a query, which are told apart at the first question mark. -/
def ofPathAndQuery (method : Method) (s : String) : Request :=
  let (path, query) := Text.splitFirst '?' s.toList
  { method, path := String.ofList path, query := query.map String.ofList
    headers := Table.empty, pathParams := [], body := [], peer := none }

def ofTarget (method : Method) (t : Target) : Request :=
  { method, path := t.path, query := t.query
    headers := Table.empty, pathParams := [], body := [], peer := none }

/-- A header of the request as text. -/
def header? (r : Request) (name : String) : Option String :=
  r.headers.text? name

/-- Reads a body of at most `max` octets to its end. What counts is how many octets come before it
breaks off, not in which pieces they come. -/
def readBody (max : Nat) (r : Request) : Except BodyError Bytes :=
  if max < r.body.length then .error .overlong
  else
    match r.bodyFault with
    | some error => .error (.broken error)
    | none => .ok r.body

end Request

structure Response where
  status : Nat
  headers : Headers
  body : Bytes

namespace Response

def ofStatus (status : Nat) : Response :=
  ⟨status, Table.empty, []⟩

/-- A response with a body of plain text. -/
def text (status : Nat) (body : String) : Response :=
  ⟨status, Headers.setText Table.empty "content-type" "text/plain; charset=utf-8", Text.encode body⟩

def json (status : Nat) (body : Json) : Response :=
  ⟨status, Headers.setText Table.empty "content-type" "application/json", Text.encode body.render⟩

/-- Whether the answer to a method goes without a body: to HEAD always, to CONNECT on success. -/
def goesBare (m : Method) (status : Nat) : Bool :=
  m == Method.head || (m == Method.connect && 200 ≤ status && status < 300)

/-- A response as it goes out in answer to a method. -/
def outgoing (r : Response) (m : Method) : Response :=
  if goesBare m r.status then { r with body := [] } else r

end Response

end AdmissionGate
