import AdmissionGate.Text.Utf8

/-!
A scan of JSON text for its nesting alone: brackets are counted outside of string literals, and
nothing else is looked at.
-/

namespace AdmissionGate.Json

open Text (Bytes)

/-- Where the scan stands: outside of string literals, inside one, or after a backslash in one. -/
inductive ScanState where
  | outside
  | inString
  | escaped
  deriving DecidableEq, Repr

/-- Scans on with `depth` brackets open, and answers as soon as more than `limit` are. -/
def exceedsNestingFrom (limit : Nat) : ScanState → Nat → Bytes → Bool
  | _, _, [] => false
  | .escaped, depth, _ :: rest => exceedsNestingFrom limit .inString depth rest
  | .inString, depth, b :: rest =>
    if b = 0x5C then exceedsNestingFrom limit .escaped depth rest
    else if b = 0x22 then exceedsNestingFrom limit .outside depth rest
    else exceedsNestingFrom limit .inString depth rest
  | .outside, depth, b :: rest =>
    if b = 0x22 then exceedsNestingFrom limit .inString depth rest
    else if b = 0x7B ∨ b = 0x5B then
      limit < depth + 1 || exceedsNestingFrom limit .outside (depth + 1) rest
    else if b = 0x7D ∨ b = 0x5D then exceedsNestingFrom limit .outside (depth - 1) rest
    else exceedsNestingFrom limit .outside depth rest

/-- Whether a text nests more than `limit` arrays and objects. -/
def exceedsNesting (bs : Bytes) (limit : Nat) : Bool :=
  exceedsNestingFrom limit .outside 0 bs

end AdmissionGate.Json
