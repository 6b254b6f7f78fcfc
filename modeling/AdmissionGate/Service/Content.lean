import AdmissionGate.Json.Printer
import AdmissionGate.Service.Draft
import AdmissionGate.Text.Case
import AdmissionGate.Text.Split
import AdmissionGate.Time.Timestamp

/-!
What the service answers with: knowledge items, categories, a banner, and a report on its health.
-/

namespace AdmissionGate

/-- A member that is left out where there is no value. -/
def optionalMember {α : Type} (name : String) (json : α → Json) : Option α → List (String × Json)
  | none => []
  | some a => [(name, json a)]

structure KnowledgeItem where
  id : String
  title : String
  content : String
  category : Option String
  tags : List String
  createdAt : Timestamp
  deriving DecidableEq, Repr

namespace KnowledgeItem

/-- A new item made from a draft. -/
def ofDraft (d : Draft) (id : String) (now : Timestamp) : KnowledgeItem :=
  ⟨id, d.title, d.content, d.category, d.tags, now⟩

/-- The item that stands in for every item that is asked for. -/
def sample (id : String) (now : Timestamp) : KnowledgeItem :=
  ⟨id, "Sample item", "Placeholder content", none, [], now⟩

def json (i : KnowledgeItem) : Json :=
  .object ([("id", .string i.id), ("title", .string i.title), ("content", .string i.content)]
    ++ optionalMember "category" .string i.category
    ++ [("tags", .array (i.tags.map .string)), ("created_at", .string i.createdAt.render)])

end KnowledgeItem

/-- A category, with a name to show. -/
structure ContentCategory where
  slug : String
  name : String
  deriving DecidableEq, Repr

namespace ContentCategory

/-- A word with its first character in upper case. -/
def capitalize : List Char → List Char
  | [] => []
  | c :: rest => Text.upperImage c ++ rest

/-- The category of a slug: its words, capitalized, with spaces in the place of hyphens. -/
def ofSlug (slug : String) : ContentCategory :=
  let words := (Text.splitAll '-' slug.toList).map fun w => String.ofList (capitalize w)
  ⟨slug, " ".intercalate words⟩

def json (c : ContentCategory) : Json :=
  .object [("slug", .string c.slug), ("name", .string c.name)]

end ContentCategory

structure ServiceInfo where
  name : String
  version : String
  environment : String
  deriving DecidableEq, Repr

def ServiceInfo.json (i : ServiceInfo) : Json :=
  .object [("name", .string i.name), ("version", .string i.version),
    ("environment", .string i.environment)]

/-- A report on the health of the service. -/
structure HealthReport where
  status : String
  version : String
  environment : String
  counterStore : String
  counterStoreAvailable : Option Bool
  strict : Bool
  uptime : Nat
  timestamp : Timestamp
  deriving DecidableEq, Repr

def HealthReport.json (r : HealthReport) : Json :=
  .object ([("status", .string r.status), ("version", .string r.version),
      ("environment", .string r.environment), ("counter_store", .string r.counterStore)]
    ++ optionalMember "counter_store_available" .bool r.counterStoreAvailable
    ++ [("strict_validation", .bool r.strict), ("uptime_seconds", .nat r.uptime),
      ("timestamp", .string r.timestamp.render)])

end AdmissionGate
