import AdmissionGate.Http.Message
import AdmissionGate.Http.Route

/-!
The endpoints of the service: where they are, and which methods they take.
-/

namespace AdmissionGate

inductive Endpoint where
  | banner
  | health
  | readiness
  /-- Takes in drafts of items. -/
  | items
  | item
  | category
  deriving DecidableEq, Repr

namespace Endpoint

def path : Endpoint → List Segment
  | .banner => [.literal ""]
  | .health => [.literal "health"]
  | .readiness => [.literal "ready"]
  | .items => [.literal "api", .literal "v1", .literal "knowledge"]
  | .item => [.literal "api", .literal "v1", .literal "knowledge", .capture "item_id"]
  | .category => [.literal "api", .literal "v1", .literal "categories", .capture "slug"]

def all : List Endpoint := [.banner, .health, .readiness, .items, .item, .category]

def routes : List (Route Endpoint) :=
  all.map fun e => ⟨⟨e.path⟩, e⟩

/-- The methods that an endpoint takes. Whatever answers GET answers HEAD as well. -/
def methods : Endpoint → List Method
  | .items => [.post]
  | _ => [.get, .head]

/-- The methods of an endpoint as a header lists them. -/
def allow (e : Endpoint) : String :=
  ",".intercalate (e.methods.map (·.name))

end Endpoint

end AdmissionGate
