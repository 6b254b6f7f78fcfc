import AdmissionGate.Pattern.Search
import AdmissionGate.Text.Case
import AdmissionGate.Text.Split

/-!
What counts as an attack. The catalogue is a coarse list of patterns, query language first, and
accepts false alarms: any text with a semicolon is flagged. Header values are looked through for a
short list of needles instead, after lowering their letters.
-/

namespace AdmissionGate

/-- What a pattern or needle gives away. -/
inductive Category where
  | sqlInjection
  | xss
  | pathTraversal
  | crlfInjection
  deriving DecidableEq, Repr

namespace Category

/-- The name of a category in reports. -/
def label : Category → String
  | .sqlInjection => "sql_injection"
  | .xss => "xss"
  | .pathTraversal => "path_traversal"
  | .crlfInjection => "crlf_injection"

end Category

structure Signature where
  category : Category
  pattern : Pattern
  deriving Repr

namespace Signature

open Pattern

/-- White space, if any. -/
def blanks : Pattern := .many false (.one .blank)

/-- A whole word out of a list. -/
def wholeWord (words : List String) : Pattern :=
  all [.boundary, any (words.map text), .boundary]

/-- A logical word with an equation between two numbers after it. -/
def numericTautology (word : String) : Pattern :=
  all [.boundary, text word, .boundary, some (.one .blank), some (.one .digit), blanks,
    .one (.literal '='), blanks, some (.one .digit)]

/-- An opening tag with whatever it holds up to its end. -/
def openTag (name : String) : Pattern :=
  all [text ("<" ++ name), .many false (.one (.except '>')), .one (.literal '>')]

/-- Patterns of query language. The last but one asks for escapes that are spelt out, a backslash
and what follows it, and not for the characters that they stand for. -/
def queryLanguage : List Pattern :=
  [wholeWord ["SELECT", "INSERT", "UPDATE", "DELETE", "DROP", "UNION", "ALTER", "CREATE", "EXEC",
      "EXECUTE"],
    any [text "--", text "#", text "/*", text "*/"],
    numericTautology "OR",
    numericTautology "AND",
    any [text "'", text "\"", text ";", text "\\x00", text "\\n", text "\\r", text "\\x1a"],
    wholeWord ["SLEEP", "BENCHMARK", "WAITFOR"]]

/-- Patterns of scripts in markup. -/
def activeMarkup : List Pattern :=
  [all [openTag "script", .many true (.one (.except '\n')), text "</script>"],
    text "javascript:",
    all [text "on", some (.one .word), blanks, .one (.literal '=')],
    openTag "iframe",
    openTag "embed",
    openTag "object"]

end Signature

def catalogue : List Signature :=
  Signature.queryLanguage.map (⟨.sqlInjection, ·⟩) ++ Signature.activeMarkup.map (⟨.xss, ·⟩)

/-- Whether the text holds a stretch of the signature. -/
def Signature.isIn (s : Signature) (value : String) : Bool :=
  s.pattern.search value.toList

/-- The first signature of the catalogue that the text holds, with its position. -/
def findInjection (value : String) : Option (Nat × Signature) :=
  if value.isEmpty then none
  else (catalogue.zipIdx.find? fun (s, _) => s.isIn value).map fun (s, i) => (i, s)

/-- The category of the first signature that the text holds. -/
def injectionCategory (value : String) : Option Category :=
  (findInjection value).map (·.2.category)

def isInjection (value : String) : Bool :=
  (findInjection value).isSome

/-- Needles that make a header value unsafe, in the order in which they are looked for. -/
def headerNeedles : List (String × Category) :=
  [("\r", .crlfInjection), ("\n", .crlfInjection), ("<script", .xss), ("javascript:", .xss),
    ("../", .pathTraversal), ("..\\", .pathTraversal)]

/-- The category of the first needle in a header value. -/
def headerThreat (value : String) : Option Category :=
  let lowered := Text.lowerChars value.toList
  (headerNeedles.find? fun (needle, _) => Text.occursIn needle.toList lowered).map (·.2)

end AdmissionGate
