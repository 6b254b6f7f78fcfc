import AdmissionGate.Http.Header

/-!
Request targets: a path with an optional query, a whole address with a scheme, the asterisk, or an
authority alone. Only path and query matter here. A fragment is dropped, and characters above ASCII
are left as they are.
-/

namespace AdmissionGate

open Text (Bytes)

/-- The path and the query of a request target. -/
structure Target where
  path : String
  query : Option String
  deriving DecidableEq, Repr

namespace Target

def maxLength : Nat := 65534

/-- Whether an octet may stand in a path. Octets above ASCII may, and so may quotes and curly
brackets, which some clients send as they are. -/
def isPathOctet (b : UInt8) : Bool :=
  b == 0x21 || b == 0x22 || (0x24 ≤ b && b ≤ 0x3B) || b == 0x3D || (0x40 ≤ b && b ≤ 0x5F)
    || (0x61 ≤ b && b ≤ 0x7E) || 0x80 ≤ b

/-- Whether an octet may stand in a query. -/
def isQueryOctet (b : UInt8) : Bool :=
  b == 0x21 || (0x24 ≤ b && b ≤ 0x3B) || b == 0x3D || (0x3F ≤ b && b ≤ 0x7E) || 0x80 ≤ b

/-- Path and query after the authority, if there is one. The empty path is the root. -/
def origin? (bs : Bytes) : Option Target := do
  let bs := bs.takeWhile (· != 0x23)
  let (path, query) := Text.splitFirst 0x3F bs
  guard (path.all isPathOctet && query.all (·.all isQueryOctet))
  let path ← Text.decode? path
  let query ← query.mapM Text.decode?
  return ⟨if path.isEmpty then "/" else path, query⟩

/-! ## Authority -/

/-- What has been seen of an authority: colons since the last bracket or at sign, whether a bracket
was opened and closed, whether a percent sign stands in the host, and whether the last octet was an
at sign. -/
structure AuthorityScan where
  colons : Nat
  opened : Bool
  closed : Bool
  percent : Bool
  endsInAt : Bool
  deriving DecidableEq, Repr

/-- Octets that an authority may hold besides its delimiters. -/
def isAuthorityOctet (b : UInt8) : Bool :=
  b == 0x21 || b == 0x24 || (0x26 ≤ b && b ≤ 0x2E) || (0x30 ≤ b && b ≤ 0x39) || b == 0x3B
    || b == 0x3D || (0x41 ≤ b && b ≤ 0x5A) || b == 0x5F || (0x61 ≤ b && b ≤ 0x7A) || b == 0x7E

/-- The most colons in a row of host groups. -/
def maxColons : Nat := 8

def AuthorityScan.step? (s : AuthorityScan) (b : UInt8) : Option AuthorityScan :=
  let s := { s with endsInAt := b == 0x40 }
  if b = 0x3A then if s.colons < maxColons then some { s with colons := s.colons + 1 } else none
  else if b = 0x5B then if s.percent || s.opened then none else some { s with opened := true }
  else if b = 0x5D then
    if !s.opened || s.closed then none
    else some { s with closed := true, colons := 0, percent := false }
  else if b = 0x40 then some { s with colons := 0, percent := false }
  else if b = 0x25 then some { s with percent := true }
  else if isAuthorityOctet b then some s
  else none

def AuthorityScan.isComplete (s : AuthorityScan) : Bool :=
  s.opened == s.closed && s.colons ≤ 1 && !s.endsInAt && !s.percent

/-- Whether a sequence of octets is an authority, the empty one included. -/
def isAuthority (bs : Bytes) : Bool :=
  (bs.foldlM AuthorityScan.step? ⟨0, false, false, false, false⟩).any AuthorityScan.isComplete

/-- Octets that end an authority. -/
def endsAuthority (b : UInt8) : Bool :=
  b == 0x2F || b == 0x3F || b == 0x23

/-- The authority at the head of a text, and what follows it. -/
def authority? (bs : Bytes) : Option (Bytes × Bytes) :=
  let (host, rest) := bs.span (!endsAuthority ·)
  if isAuthority host then some (host, rest) else none

/-! ## Scheme -/

/-- Octets of schemes. -/
def isSchemeOctet (b : UInt8) : Bool :=
  b == 0x2B || b == 0x2D || b == 0x2E || (0x30 ≤ b && b ≤ 0x39) || (0x41 ≤ b && b ≤ 0x5A)
    || (0x61 ≤ b && b ≤ 0x7A) || b == 0x7E

def maxScheme : Nat := 64

inductive Lead where
  /-- No scheme. -/
  | bare
  /-- A scheme that is too long. -/
  | tooLong
  /-- A scheme, and what follows it. -/
  | scheme (rest : Bytes)

/-- Takes a scheme with a colon and two slashes off a target. -/
def lead (bs : Bytes) : Lead :=
  let (name, rest) := bs.span isSchemeOctet
  match rest with
  | 0x3A :: 0x2F :: 0x2F :: tail =>
    if maxScheme < name.length then .tooLong
    else .scheme tail
  | _ => .bare

/-- The target that a sequence of octets spells. -/
def parse? (bs : Bytes) : Option Target :=
  if maxLength < bs.length then none
  else
    match bs with
    | [] => none
    | [0x2A] => some ⟨"*", none⟩
    | 0x2F :: _ => origin? bs
    | _ =>
      match lead bs with
      | .tooLong => none
      | .bare => if isAuthority bs then some ⟨"", none⟩ else none
      | .scheme rest =>
        match authority? rest with
        | none => none
        | some ([], _) => none
        | some (_, tail) => origin? tail

end Target

end AdmissionGate
