import AdmissionGate.Digest.Sha256
import AdmissionGate.Http.Message
import AdmissionGate.Text.Classes

/-!
Who a request counts against. There are three dimensions: the client address, as proxies report it
or else the peer; the bearer of a token, known by the head of a digest; and the endpoint. Proxy
headers are trusted as they come, and tokens are hashed without being checked.
-/

namespace AdmissionGate

inductive Identifier where
  | ip (address : String)
  | user (hash : String)
  | endpoint (method path : String)
  deriving DecidableEq, Repr

namespace Identifier

def dimension : Identifier → String
  | .ip _ => "ip"
  | .user _ => "user"
  | .endpoint _ _ => "endpoint"

/-- The written form of an identifier: its dimension and its parts, with colons between them. -/
def render : Identifier → String
  | .ip address => "ip:" ++ address
  | .user hash => "user:" ++ hash
  | .endpoint method path => "endpoint:" ++ method ++ ":" ++ path

end Identifier

structure IdentitySettings where
  byIp : Bool
  byUser : Bool
  byEndpoint : Bool
  deriving DecidableEq, Repr

/-- Addresses and bearers are counted, endpoints are not. -/
def IdentitySettings.standard : IdentitySettings := ⟨true, true, false⟩

/-- What stands for the address of a client that cannot be told; all of them share it. -/
def unknownAddress : String := "unknown"

/-- A text without the blanks around it, unless nothing is left. -/
def nonblank? (s : String) : Option String :=
  let t := Text.trim s
  if t.isEmpty then none else some t

namespace Request

/-- The first address that proxies say they forwarded for. -/
def forwardedFor? (r : Request) : Option String :=
  (r.header? "x-forwarded-for").bind fun v =>
    nonblank? (String.ofList (Text.splitFirst ',' v.toList).1)

/-- The address that a proxy names as the real one. -/
def realIp? (r : Request) : Option String :=
  (r.header? "x-real-ip").bind nonblank?

def clientAddress (r : Request) : String :=
  match r.forwardedFor?, r.realIp?, r.peer with
  | some a, _, _ => a
  | none, some a, _ => a
  | none, none, some peer => peer.render
  | none, none, none => unknownAddress

/-- What precedes a bearer token in its header. -/
def bearerMark : List Char := "Bearer ".toList

/-- The number of hexadecimal digits of a token's digest that are kept. -/
def userHashLength : Nat := 16

/-- The head of the digest of the bearer token, if there is a token. -/
def userHash? (r : Request) : Option String :=
  (r.header? "authorization").bind fun v =>
    if bearerMark.isPrefixOf v.toList then
      let token := v.toList.drop bearerMark.length
      if token.isEmpty then none
      else
        let digest := Sha256.hexDigest (Text.encode (String.ofList token))
        some (String.ofList (digest.toList.take userHashLength))
    else none

/-- The identifiers of a request in the dimensions that are counted: address, bearer, endpoint. -/
def identifiers (r : Request) (s : IdentitySettings) : List Identifier :=
  (if s.byIp then [.ip r.clientAddress] else [])
    ++ (if s.byUser then r.userHash?.toList.map .user else [])
    ++ (if s.byEndpoint then [.endpoint r.method.name r.path] else [])

end Request

end AdmissionGate
