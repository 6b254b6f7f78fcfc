import AdmissionGate.Text.LetterTable
import AdmissionGate.Text.Ranges
import AdmissionGate.Text.WordTable

/-!
Character classes, by their Unicode properties: white space, letters and numbers, word characters and
decimal digits. `trim` takes white space off both ends of a text.
-/

namespace AdmissionGate.Text

/-- White space: the control characters from tab to carriage return, the next-line character, and
every space, line and paragraph separator. -/
def isBlank (c : Char) : Bool :=
  let n := c.toNat
  (0x9 ≤ n && n ≤ 0xD) || n == 0x20 || n == 0x85 || n == 0xA0 || n == 0x1680
    || (0x2000 ≤ n && n ≤ 0x200A) || n == 0x2028 || n == 0x2029 || n == 0x202F || n == 0x205F
    || n == 0x3000

/-- Decimal digits of any script. -/
def isDecimalDigit (c : Char) : Bool :=
  if c.toNat < 0x80 then c.isDigit else inRanges digitRanges c.toNat

/-- Letters and numbers: alphabetic characters, and numbers of any kind. A number need not be a decimal
digit; connectors, and marks that only modify a letter, are left out. -/
def isAlphanumeric (c : Char) : Bool :=
  if c.toNat < 0x80 then c.isAlphanum
  else inRanges alphabeticRanges c.toNat || inRanges numberRanges c.toNat

/-- Word characters: alphabetic characters, marks, decimal digits, connectors such as the
underscore, and the join controls. -/
def isWord (c : Char) : Bool :=
  if c.toNat < 0x80 then c.isAlphanum || c == '_' else inRanges wordRanges c.toNat

/-- A list of characters without the white space at its two ends. -/
def trimChars (cs : List Char) : List Char :=
  ((cs.dropWhile isBlank).reverse.dropWhile isBlank).reverse

/-- A text without the white space at its two ends. -/
def trim (s : String) : String :=
  String.ofList (trimChars s.toList)

end AdmissionGate.Text
