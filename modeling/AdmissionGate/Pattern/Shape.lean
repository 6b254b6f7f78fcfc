import AdmissionGate.Text.Case
import AdmissionGate.Text.Split
import AdmissionGate.Text.Utf8

/-!
The two shapes that path parameters are held to: a UUID in its hyphenated form, and a slug.
-/

namespace AdmissionGate

/-- Hexadecimal digits of either case. -/
def isHexDigit (c : Char) : Bool :=
  c.isDigit || ('a' ≤ c && c ≤ 'f') || ('A' ≤ c && c ≤ 'F')

/-- The positions of the hyphens in a UUID. -/
def uuidHyphens : List Nat := [8, 13, 18, 23]

/-- Whether a text is a UUID: 36 octets, hexadecimal digits but for the four hyphens. -/
def isUuid (value : String) : Bool :=
  value.utf8ByteSize == 36 && value.toList.length == 36
    && value.toList.zipIdx.all fun (c, i) =>
      if uuidHyphens.contains i then c == '-' else isHexDigit c

def isSlugChar (c : Char) : Bool :=
  c.isLower || c.isDigit

/-- Whether a text is, once its letters are lowered, a chain of words of ASCII letters and digits
with single hyphens between them. -/
def isSlug (value : String) : Bool :=
  (Text.splitAll '-' (Text.lowerChars value.toList)).all fun word =>
    !word.isEmpty && word.all isSlugChar

end AdmissionGate
