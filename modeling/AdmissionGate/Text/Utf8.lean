/-!
UTF-8. `units` reads a byte sequence one octet at a time and gives a character for each well-formed
sequence and `none` for each maximal ill-formed stretch, so that every byte belongs to exactly one
unit. `decode?` accepts the texts without ill-formed stretches, and `decodeLossy` puts the
replacement character in the place of each of them.
-/

namespace AdmissionGate.Text

abbrev Bytes := List UInt8

def encode (s : String) : Bytes :=
  s.toList.flatMap String.utf8EncodeChar

namespace Utf8

/-- A sequence that is not complete: `owed` more octets are due, the next one between `low` and
`high`, and `value` is the number that the octets so far spell. -/
structure Pending where
  owed : Nat
  low : Nat
  high : Nat
  value : Nat
  deriving DecidableEq, Repr

/-- What a first octet stands for: a whole character, the start of a longer sequence, or nothing. -/
inductive Lead where
  | char (c : Char)
  | opens (p : Pending)
  | illFormed

/-- The role of octet `b` at the start of a sequence. Overlong forms, surrogates and numbers above
the last code point are excluded by the bounds on the second octet. -/
def lead (b : UInt8) : Lead :=
  let n := b.toNat
  if n < 0x80 then .char (Char.ofNat n)
  else if n < 0xC2 then .illFormed
  else if n < 0xE0 then .opens ⟨1, 0x80, 0xBF, n - 0xC0⟩
  else if n = 0xE0 then .opens ⟨2, 0xA0, 0xBF, 0⟩
  else if n = 0xED then .opens ⟨2, 0x80, 0x9F, 0xD⟩
  else if n < 0xF0 then .opens ⟨2, 0x80, 0xBF, n - 0xE0⟩
  else if n = 0xF0 then .opens ⟨3, 0x90, 0xBF, 0⟩
  else if n < 0xF4 then .opens ⟨3, 0x80, 0xBF, n - 0xF0⟩
  else if n = 0xF4 then .opens ⟨3, 0x80, 0x8F, 4⟩
  else .illFormed

/-- The sequence after octet `b`, if the octet continues it. -/
def Pending.extend (p : Pending) (b : UInt8) : Option Pending :=
  let n := b.toNat
  if p.low ≤ n ∧ n ≤ p.high then some ⟨p.owed - 1, 0x80, 0xBF, p.value * 64 + (n - 0x80)⟩ else none

/-- Reads the octets that follow an incomplete sequence, or a character boundary. -/
def unitsFrom : Option Pending → Bytes → List (Option Char)
  | none, [] => []
  | some _, [] => [none]
  | none, b :: rest =>
    match lead b with
    | .char c => some c :: unitsFrom none rest
    | .opens p => unitsFrom (some p) rest
    | .illFormed => none :: unitsFrom none rest
  | some p, b :: rest =>
    match p.extend b with
    | some q =>
      if q.owed = 0 then some (Char.ofNat q.value) :: unitsFrom none rest
      else unitsFrom (some q) rest
    | none =>
      match lead b with
      | .char c => none :: some c :: unitsFrom none rest
      | .opens q => none :: unitsFrom (some q) rest
      | .illFormed => none :: none :: unitsFrom none rest

def units (bs : Bytes) : List (Option Char) :=
  unitsFrom none bs

end Utf8

/-- The text that a byte sequence is the UTF-8 form of. -/
def decode? (bs : Bytes) : Option String :=
  ((Utf8.units bs).mapM id).map String.ofList

/-- The character that stands for octets which are no UTF-8. -/
def replacement : Char := Char.ofNat 0xFFFD

/-- The text of a byte sequence, with every ill-formed stretch replaced. -/
def decodeLossy (bs : Bytes) : String :=
  String.ofList ((Utf8.units bs).map (·.getD replacement))

end AdmissionGate.Text
