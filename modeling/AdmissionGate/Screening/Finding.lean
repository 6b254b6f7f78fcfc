import AdmissionGate.Http.Message
import AdmissionGate.Pattern.Catalogue

/-!
Findings: suspicious values that a request was let through with.
-/

namespace AdmissionGate

/-- Where in a request a value was found. -/
inductive Place where
  | header
  | query
  | pathParam
  | jsonKey
  | jsonValue
  deriving DecidableEq, Repr

def Place.name : Place → String
  | .header => "header"
  | .query => "query"
  | .pathParam => "path_param"
  | .jsonKey => "json_key"
  | .jsonValue => "json_value"

/-- A suspicious value, the name that it goes by, and what it looks like. -/
structure Finding where
  place : Place
  name : String
  category : Category
  value : String
  deriving DecidableEq, Repr

/-- The number of characters of a value that reports show. -/
def previewLength : Nat := 100

/-- The part of a value that reports show. -/
def preview (value : String) : String :=
  String.ofList (value.toList.take previewLength)

end AdmissionGate
