import AdmissionGate.Data.Table
import AdmissionGate.Text.Split
import AdmissionGate.Text.Utf8

/-!
Header fields. A `Headers` table lists names in the order in which they first came, each with all of
its values; looking a name up gives the first of them. Names are tokens in lower case, and values
are octets, which count as text only where all of them are visible ASCII.
-/

namespace AdmissionGate

open Text (Bytes)

/-- Characters of tokens: letters, digits and the marks that no delimiter uses. -/
def isTokenChar (c : Char) : Bool :=
  c.isAlphanum || "!#$%&'*+-.^_|~".toList.contains c || c == Char.ofNat 0x60

/-- Non-empty texts of token characters. -/
def isToken (cs : List Char) : Bool :=
  !cs.isEmpty && cs.all isTokenChar

def maxFieldName : Nat := 65535

/-- The header name that a sequence of octets spells, in lower case. -/
def fieldName? (bs : Bytes) : Option String :=
  let cs := bs.map fun b => Char.ofNat b.toNat
  if isToken cs && bs.length ≤ maxFieldName then some (String.ofList (cs.map Char.toLower)) else none

/-- Whether a sequence of octets may be a header value: no control character but the tab. -/
def isFieldValue (bs : Bytes) : Bool :=
  bs.all fun b => b == 0x09 || (0x20 ≤ b && b != 0x7F)

/-- The text of a header value of visible ASCII characters, spaces and tabs. -/
def visibleText? (bs : Bytes) : Option String :=
  if bs.all fun b => b == 0x09 || (0x20 ≤ b && b < 0x7F) then
    some (String.ofList (bs.map fun b => Char.ofNat b.toNat))
  else none

abbrev Headers := Table String (List Bytes)

namespace Headers

/-- Adds a value after those that the name has already. -/
def append (h : Headers) (name : String) (value : Bytes) : Headers :=
  h.put name ((h.get? name).getD [] ++ [value])

/-- Gives a name one value in the place of all that it had. -/
def set (h : Headers) (name : String) (value : Bytes) : Headers :=
  h.put name [value]

/-- Gives a name one text in the place of all values that it had. -/
def setText (h : Headers) (name value : String) : Headers :=
  h.set name (Text.encode value)

/-- The headers of a list of fields. -/
def ofFields (fields : List (String × Bytes)) : Headers :=
  fields.foldl (fun h (name, value) => h.append name value) Table.empty

/-- Every field, all values of one name together. -/
def fields (h : Headers) : List (String × Bytes) :=
  h.entries.flatMap fun (name, values) => values.map (name, ·)

def values (h : Headers) (name : String) : List Bytes :=
  (h.get? name).getD []

def first? (h : Headers) (name : String) : Option Bytes :=
  (h.values name).head?

/-- The first value of a name, if it is text. -/
def text? (h : Headers) (name : String) : Option String :=
  (h.first? name).bind visibleText?

/-- The number of octets of all names and values, a name counted once for each of its values. -/
def byteSize (h : Headers) : Nat :=
  h.fields.foldl (fun size (name, value) => size + (name.utf8ByteSize + value.length)) 0

end Headers

end AdmissionGate
