import AdmissionGate.Text.Split
import AdmissionGate.Text.Utf8

/-!
Form-encoded text. `percentDecode` undoes percent signs with two hexadecimal digits and leaves all
others; `Form.pairs` cuts a query into its keys and values and decodes each of them.
-/

namespace AdmissionGate

/-- The value of a hexadecimal digit, as an octet of ASCII. -/
def hexValue? (b : UInt8) : Option UInt8 :=
  if 0x30 ≤ b ∧ b ≤ 0x39 then some (b - 0x30)
  else if 0x41 ≤ b ∧ b ≤ 0x46 then some (b - 0x37)
  else if 0x61 ≤ b ∧ b ≤ 0x66 then some (b - 0x57)
  else none

/-- The octet that two hexadecimal digits spell. -/
def hexPair? (high low : UInt8) : Option UInt8 :=
  match hexValue? high, hexValue? low with
  | some h, some l => some (h * 16 + l)
  | _, _ => none

open Text (Bytes)

/-- Replaces every percent sign and the two hexadecimal digits after it by the octet they spell. -/
def percentDecode : Bytes → Bytes
  | 0x25 :: high :: low :: rest =>
    match hexPair? high low with
    | some b => b :: percentDecode rest
    | none => 0x25 :: percentDecode (high :: low :: rest)
  | b :: rest => b :: percentDecode rest
  | [] => []

namespace Form

/-- A plus sign stands for a space. -/
def plusToSpace (b : UInt8) : UInt8 :=
  if b = 0x2B then 0x20 else b

/-- The text that one form-encoded component stands for. -/
def component (bs : Bytes) : String :=
  Text.decodeLossy (percentDecode (bs.map plusToSpace))

/-- The key and the value of one piece; without an equals sign the value is empty. -/
def pair (piece : Bytes) : String × String :=
  let (key, value) := Text.splitFirst 0x3D piece
  (component key, component (value.getD []))

/-- The decoded keys and values of a form-encoded text; empty pieces do not count. -/
def pairs (bs : Bytes) : List (String × String) :=
  ((Text.splitAll 0x26 bs).filter (!·.isEmpty)).map pair

end Form

end AdmissionGate
