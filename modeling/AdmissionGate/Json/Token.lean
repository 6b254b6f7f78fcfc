import AdmissionGate.Json.Range
import AdmissionGate.Form
import AdmissionGate.Text.Utf8

/-!
JSON tokens. `Token.next` takes one token off the front of a text, blanks before it included. It
reads in one of two ways: `full`, in which a string has to be well-formed text and a numeral in
range, and `skim`, in which only the outline of strings and numerals matters.
-/

namespace AdmissionGate.Json

open Text (Bytes)

inductive Token where
  | openArray
  | closeArray
  | openObject
  | closeObject
  | comma
  | colon
  | null
  | bool (b : Bool)
  | number (n : Numeral)
  | string (s : String)
  deriving DecidableEq, Repr

inductive Reading where
  | full
  | skim
  deriving DecidableEq, Repr

/-! ## Strings -/

/-- What a string literal is made of: octets, and 16-bit units written as escapes. -/
inductive Piece where
  | octet (b : UInt8)
  | unit (n : Nat)
  deriving DecidableEq, Repr

/-- The octet that a one-letter escape stands for. -/
def simpleEscape? (b : UInt8) : Option UInt8 :=
  if b = 0x22 ∨ b = 0x5C ∨ b = 0x2F then some b
  else if b = 0x62 then some 0x08
  else if b = 0x66 then some 0x0C
  else if b = 0x6E then some 0x0A
  else if b = 0x72 then some 0x0D
  else if b = 0x74 then some 0x09
  else none

/-- The unit that four hexadecimal digits spell. -/
def unit? (a b c d : UInt8) : Option Nat :=
  match hexPair? a b, hexPair? c d with
  | some h, some l => some (h.toNat * 256 + l.toNat)
  | _, _ => none

/-- The pieces of a string literal up to its closing quote, and what follows the quote. Control
characters do not occur in a literal. -/
def pieces? : Bytes → Option (List Piece × Bytes)
  | [] => none
  | 0x22 :: rest => some ([], rest)
  | 0x5C :: 0x75 :: a :: b :: c :: d :: rest =>
    match unit? a b c d, pieces? rest with
    | some n, some (ps, tail) => some (.unit n :: ps, tail)
    | _, _ => none
  | 0x5C :: e :: rest =>
    match simpleEscape? e, pieces? rest with
    | some b, some (ps, tail) => some (.octet b :: ps, tail)
    | _, _ => none
  | b :: rest =>
    if b < 0x20 ∨ b = 0x5C then none
    else (pieces? rest).map fun (ps, tail) => (.octet b :: ps, tail)

/-- The first unit of a pair that spells a character above the sixteen-bit range. -/
def isHighUnit (n : Nat) : Bool := 0xD800 ≤ n && n ≤ 0xDBFF

/-- The second unit of such a pair. -/
def isLowUnit (n : Nat) : Bool := 0xDC00 ≤ n && n ≤ 0xDFFF

/-- The octets of a string literal; a unit that belongs to a pair must stand in one. -/
def octets? : List Piece → Option Bytes
  | [] => some []
  | .octet b :: ps => (octets? ps).map (b :: ·)
  | .unit h :: .unit l :: ps =>
    if isHighUnit h then
      if isLowUnit l then
        (octets? ps).map
          (String.utf8EncodeChar (Char.ofNat (0x10000 + (h - 0xD800) * 1024 + (l - 0xDC00))) ++ ·)
      else none
    else if isLowUnit h then none
    else (octets? (.unit l :: ps)).map (String.utf8EncodeChar (Char.ofNat h) ++ ·)
  | .unit h :: ps =>
    if isHighUnit h || isLowUnit h then none
    else (octets? ps).map (String.utf8EncodeChar (Char.ofNat h) ++ ·)

def textOf? (ps : List Piece) : Option String :=
  (octets? ps).bind Text.decode?

/-! ## Numerals -/

/-- The leading decimal digits of a text, and what follows them. -/
def digits : Bytes → List Nat × Bytes
  | [] => ([], [])
  | b :: rest =>
    if 0x30 ≤ b ∧ b ≤ 0x39 then
      let (ds, tail) := digits rest
      ((b.toNat - 0x30) :: ds, tail)
    else ([], b :: rest)

/-- At least one digit, and what follows the digits. -/
def digits? (bs : Bytes) : Option (List Nat × Bytes) :=
  match digits bs with
  | ([], _) => none
  | found => some found

/-- The digits of the whole part: a zero alone, or digits of which the first is none. -/
def whole? (bs : Bytes) : Option (List Nat × Bytes) :=
  match digits bs with
  | ([], _) => none
  | (0 :: _ :: _, _) => none
  | found => some found

/-- The digits after a point, if there is one. -/
def fraction? : Bytes → Option (List Nat × Bytes)
  | 0x2E :: rest => digits? rest
  | bs => some ([], bs)

def exponent? : Bytes → Option (Option (Bool × List Nat) × Bytes)
  | e :: rest =>
    if e = 0x65 ∨ e = 0x45 then
      match rest with
      | 0x2B :: r => (digits? r).map fun (ds, tail) => (some (false, ds), tail)
      | 0x2D :: r => (digits? r).map fun (ds, tail) => (some (true, ds), tail)
      | r => (digits? r).map fun (ds, tail) => (some (false, ds), tail)
    else some (none, e :: rest)
  | [] => some (none, [])

def unsigned? (negative : Bool) (bs : Bytes) : Option (Numeral × Bytes) := do
  let (whole, bs) ← whole? bs
  let (fraction, bs) ← fraction? bs
  let (exponent, bs) ← exponent? bs
  return (⟨negative, whole, fraction, exponent⟩, bs)

def numeral? : Bytes → Option (Numeral × Bytes)
  | 0x2D :: rest => unsigned? true rest
  | bs => unsigned? false bs

/-! ## One token -/

def isJsonBlank (b : UInt8) : Bool :=
  b == 0x20 || b == 0x09 || b == 0x0A || b == 0x0D

/-- The rest of a text after a given beginning. -/
def afterWord? (word : String) (bs : Bytes) : Option Bytes :=
  let w := Text.encode word
  if w.isPrefixOf bs then some (bs.drop w.length) else none

/-- A string literal after its opening quote. -/
def stringToken? (how : Reading) (bs : Bytes) : Option (Token × Bytes) := do
  let (ps, rest) ← pieces? bs
  match how with
  | .skim => return (.string "", rest)
  | .full => return (.string (← textOf? ps), rest)

def numberToken? (how : Reading) (bs : Bytes) : Option (Token × Bytes) := do
  let (n, rest) ← numeral? bs
  if how = .full ∧ n.inRange = false then none
  return (.number n, rest)

/-- The token at the head of a text that begins with no blank, and what follows it. -/
def Token.read? (how : Reading) : Bytes → Option (Token × Bytes)
  | [] => none
  | 0x5B :: rest => some (.openArray, rest)
  | 0x5D :: rest => some (.closeArray, rest)
  | 0x7B :: rest => some (.openObject, rest)
  | 0x7D :: rest => some (.closeObject, rest)
  | 0x2C :: rest => some (.comma, rest)
  | 0x3A :: rest => some (.colon, rest)
  | 0x22 :: rest => stringToken? how rest
  | 0x6E :: rest => (afterWord? "ull" rest).map (.null, ·)
  | 0x74 :: rest => (afterWord? "rue" rest).map (.bool true, ·)
  | 0x66 :: rest => (afterWord? "alse" rest).map (.bool false, ·)
  | bs => numberToken? how bs

/-- The next token of a text, and what follows it. -/
def Token.next? (how : Reading) (bs : Bytes) : Option (Token × Bytes) :=
  Token.read? how (bs.dropWhile isJsonBlank)

def isSpent (bs : Bytes) : Bool :=
  (bs.dropWhile isJsonBlank).isEmpty

end AdmissionGate.Json
