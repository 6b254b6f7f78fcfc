import AdmissionGate.Http.Header
import AdmissionGate.Text.Case

/-!
Media types, as content types name them: a type, a subtype, possibly with a suffix after a plus sign,
and parameters. Parameters are only checked for their form.
-/

namespace AdmissionGate

/-- A media type without its parameters, in lower case. -/
structure MediaType where
  type : String
  subtype : String
  suffix : Option String
  deriving DecidableEq, Repr

namespace MediaType

/-- Where one is in a list of parameters. -/
inductive ParamScan where
  /-- After a semicolon, before the name of a parameter. -/
  | gap
  | name
  /-- Right after an equals sign. -/
  | value
  /-- In a value without quotes. -/
  | bare
  /-- Right after an opening quote. A quote here belongs to the value. -/
  | opened
  | quoted
  /-- After a closing quote. -/
  | closed
  deriving DecidableEq, Repr

def isQuotable (c : Char) : Bool :=
  ' ' ≤ c && c != '\x7f'

/-- One character of a list of parameters. -/
def ParamScan.step? (s : ParamScan) (c : Char) : Option ParamScan :=
  match s with
  | .gap => if c == ' ' then some .gap else if isTokenChar c then some .name else none
  | .name => if c == '=' then some .value else if isTokenChar c then some .name else none
  | .value => if c == '"' then some .opened else if isTokenChar c then some .bare else none
  | .bare => if c == ';' then some .gap else if isTokenChar c then some .bare else none
  | .opened => if isQuotable c then some .quoted else none
  | .quoted => if c == '"' then some .closed else if isQuotable c then some .quoted else none
  | .closed => if c == ';' then some .gap else if c == ' ' then some .closed else none

/-- Whether a list of parameters may end here. -/
def ParamScan.isComplete : ParamScan → Bool
  | .gap => true
  | .value => true
  | .bare => true
  | .closed => true
  | _ => false

/-- Whether a text is a list of parameters, each after a semicolon. -/
def areParams : List Char → Bool
  | [] => true
  | ';' :: cs => (cs.foldlM ParamScan.step? .gap).any ParamScan.isComplete
  | _ => false

/-- A text at the last plus sign that has something before it. -/
def splitSuffix (cs : List Char) : List Char × Option (List Char) :=
  match cs with
  | [] => ([], none)
  | c :: rest =>
    let suffix := (rest.reverse.takeWhile (· != '+')).reverse
    if suffix.length < rest.length then
      (c :: rest.take (rest.length - suffix.length - 1), some suffix)
    else (cs, none)

/-- The media type that a text names. -/
def read? (s : String) : Option MediaType := do
  let (type, rest) := (Text.lowerAscii s).toList.span isTokenChar
  guard (!type.isEmpty)
  match rest with
  | '/' :: rest =>
    let (whole, params) := rest.span isTokenChar
    guard (!whole.isEmpty)
    guard (areParams params)
    let (subtype, suffix) := splitSuffix whole
    return ⟨String.ofList type, String.ofList subtype, suffix.map String.ofList⟩
  | _ => none

/-- Whether a media type is one of JSON. -/
def isJson (m : MediaType) : Bool :=
  m.type == "application" && (m.subtype == "json" || m.suffix == some "json")

end MediaType

end AdmissionGate
