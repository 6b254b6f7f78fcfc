import AdmissionGate.Decimal.Natural
import AdmissionGate.Text.Split

/-!
What a store server sends: integers, texts, nothing, lists of these, and errors. A client takes a
value for a number or a text where it can, and a value with an error anywhere in it for an error.
-/

namespace AdmissionGate

inductive ServerValue where
  | integer (n : Int)
  | text (s : String)
  | nothing
  | list (items : List ServerValue)
  | error (message : String)
  deriving Repr

namespace ServerValue

mutual

def error? : ServerValue → Option String
  | .error message => some message
  | .list items => firstError? items
  | .integer _ => none
  | .text _ => none
  | .nothing => none

/-- The first error in a list of values. -/
def firstError? : List ServerValue → Option String
  | [] => none
  | v :: rest =>
    match error? v with
    | some message => some message
    | none => firstError? rest

end

/-- The signed integer that a value is or spells. -/
def signed? : ServerValue → Option Int
  | .integer n => some n
  | .text s => Decimal.readSigned? s
  | _ => none

/-- The word that a value is or spells; a negative integer wraps around. -/
def word? : ServerValue → Option UInt64
  | .integer n => some (UInt64.ofInt n)
  | .text s => (Decimal.read Decimal.max64 s).toOption.map UInt64.ofNat
  | _ => none

/-- The text that a value is, or the digits of an integer. -/
def text? : ServerValue → Option String
  | .integer n => some (toString n)
  | .text s => some s
  | _ => none

end ServerValue

/-- The first word of an error, and what follows it. -/
def errorParts (message : String) : String × String :=
  let (word, rest) := Text.splitFirst ' ' message.toList
  (String.ofList word, String.ofList (rest.getD []))

/-- Whether an error says that the server does not know a script. -/
def isMissingScript (message : String) : Bool :=
  (errorParts message).1 == "NOSCRIPT"

/-- The wording of an error of the server in reports. -/
def describeServerError (message : String) : String :=
  let (word, rest) := errorParts message
  if word = "ERR" then "An error was signalled by the server - ResponseError: " ++ rest
  else word ++ ": " ++ rest

end AdmissionGate
