/-!
JSON values. A numeral keeps its decimal digits, and an object its members in the order of the
text, repeated names included. `Json.settle` is the reading in which the last member of a name
counts and members stand in the order of their names.
-/

namespace AdmissionGate

/-- A numeral: sign, digits before and after the point, and the exponent with its sign. -/
structure Numeral where
  negative : Bool
  whole : List Nat
  fraction : List Nat
  exponent : Option (Bool × List Nat)
  deriving DecidableEq, Repr

namespace Numeral

def ofNat (n : Nat) : Numeral :=
  ⟨false, (Nat.toDigits 10 n).map fun c => c.toNat - '0'.toNat, [], none⟩

end Numeral

inductive Json where
  | null
  | bool (b : Bool)
  | number (n : Numeral)
  | string (s : String)
  | array (items : List Json)
  | object (members : List (String × Json))
  deriving Repr

namespace Json

/-- The number of a count or a size. -/
def nat (n : Nat) : Json := .number (.ofNat n)

/-- Puts a member into a list that ascends by name; a member of the same name gives way. -/
def insertMember (name : String) (value : Json) : List (String × Json) → List (String × Json)
  | [] => [(name, value)]
  | (n, v) :: rest =>
    if name < n then (name, value) :: (n, v) :: rest
    else if name = n then (name, value) :: rest
    else (n, v) :: insertMember name value rest

mutual

/-- The value with the members of every object settled: of one name the last counts, and the names
ascend. -/
def settle : Json → Json
  | .array items => .array (settleItems items)
  | .object members => .object (settleMembers [] members)
  | .null => .null
  | .bool b => .bool b
  | .number n => .number n
  | .string s => .string s

def settleItems : List Json → List Json
  | [] => []
  | v :: rest => settle v :: settleItems rest

/-- Settles the members one after the other, adding each to those that came before it. -/
def settleMembers (settled : List (String × Json)) : List (String × Json) → List (String × Json)
  | [] => settled
  | (n, v) :: rest => settleMembers (insertMember n (settle v) settled) rest

end

end Json

end AdmissionGate
