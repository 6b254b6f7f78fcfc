import AdmissionGate.Json.Basic

/-!
The range of JSON numerals. A numeral is read as a significand of at most 64 bits and a power of
ten; digits that no longer fit into the significand only move the power. It is in range if the
product of the two is a finite double.
-/

namespace AdmissionGate

namespace Numeral

def maxSignificand : Nat := UInt64.size - 1

/-- The largest power of ten that a double can hold. -/
def maxPower : Nat := 308

/-- The largest exponent that is told apart from still larger ones. -/
def maxExponent : Nat := 0x7FFFFFFF

/-- Appends digits to a significand up to the first that no longer fits. Gives the significand and
the number of the digits left over. -/
def appendDigits (significand : Nat) : List Nat → Nat × Nat
  | [] => (significand, 0)
  | d :: ds =>
    if significand * 10 + d ≤ maxSignificand then appendDigits (significand * 10 + d) ds
    else (significand, ds.length + 1)

def digitsValue (ds : List Nat) : Nat :=
  ds.foldl (fun n d => n * 10 + d) 0

/-- Whether the product of a significand and a power of ten is a finite double. A negative power
never leaves the range. -/
def isFiniteProduct (significand : Nat) (power : Int) : Bool :=
  if power < 0 then true
  else if power ≤ maxPower then
    (significand.toUInt64.toFloat * Float.ofScientific 1 false power.toNat).isFinite
  else significand == 0

def inRange (n : Numeral) : Bool :=
  let (head, dropped) := appendDigits 0 n.whole
  let (significand, lost) := appendDigits head n.fraction
  let power : Int := (dropped : Int) - ((n.fraction.length - lost : Nat) : Int)
  match n.exponent with
  | none => isFiniteProduct significand power
  | some (negative, ds) =>
    let e := digitsValue ds
    if maxExponent < e then negative || significand == 0
    else isFiniteProduct significand (if negative then power - e else power + e)

end Numeral

end AdmissionGate
