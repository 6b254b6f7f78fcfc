import AdmissionGate.Text.Utf8

/-!
Integers in decimal. A text is read from the left and refused at the first character that
is no digit, or with which the number grows past its bound; one leading plus sign is allowed.
-/

namespace AdmissionGate.Decimal

/-- Why a text is no unsigned integer of the asked range. -/
inductive NaturalError where
  | empty
  | invalidDigit
  | tooLarge
  deriving DecidableEq, Repr

def NaturalError.message : NaturalError → String
  | .empty => "cannot parse integer from empty string"
  | .invalidDigit => "invalid digit found in string"
  | .tooLarge => "number too large to fit in target type"

/-- Reads on from the number that the digits so far spell. -/
def digitsUpTo (max : Nat) (n : Nat) : List Char → Except NaturalError Nat
  | [] => .ok n
  | c :: rest =>
    if c.isDigit then
      let m := n * 10 + (c.toNat - '0'.toNat)
      if m ≤ max then digitsUpTo max m rest else .error .tooLarge
    else .error .invalidDigit

/-- The number that a list of characters spells, if it is at most `max`. -/
def readChars (max : Nat) : List Char → Except NaturalError Nat
  | [] => .error .empty
  | ['+'] => .error .invalidDigit
  | '+' :: rest => digitsUpTo max 0 rest
  | cs => digitsUpTo max 0 cs

/-- The number that a text spells, if it is at most `max`. -/
def read (max : Nat) (s : String) : Except NaturalError Nat :=
  readChars max s.toList

/-- The signed integer of 64 bits that a text spells. -/
def readSigned? (s : String) : Option Int :=
  match s.toList with
  | ['-'] => none
  | '-' :: rest => (digitsUpTo 0x8000000000000000 0 rest).toOption.map fun n => -(n : Int)
  | cs => (readChars 0x7FFFFFFFFFFFFFFF cs).toOption.map fun n => (n : Int)

/-- The largest number of 16 bits. -/
def max16 : Nat := UInt16.size - 1

/-- The largest number of 64 bits. -/
def max64 : Nat := UInt64.size - 1

end AdmissionGate.Decimal
