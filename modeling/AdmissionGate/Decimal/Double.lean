import AdmissionGate.Text.Case

/-!
Doubles, and doubles in decimal. `readDouble?` takes a sign, digits with at most one point among them,
and an exponent, or one of the words for infinity and for no number, and rounds to the nearest double.
`fixed` writes the exact value rounded to a number of places, a half going to the even neighbour.
-/

namespace AdmissionGate

/-- A double, given by its word. Unlike among `Float`s, what is no number keeps its sign. -/
structure Double where
  bits : UInt64
  deriving DecidableEq, Repr

namespace Double

def ofFloat (x : Float) : Double := ⟨x.toBits⟩

def toFloat (x : Double) : Float := Float.ofBits x.bits

/-- The place of the sign in a word. -/
def signBit : UInt64 := 0x8000000000000000

def isNegative (x : Double) : Bool := x.bits &&& signBit != 0

def neg (x : Double) : Double := ⟨x.bits ^^^ signBit⟩

end Double

namespace Decimal

/-! ## Reading -/

def infinite : Double := ⟨0x7FF0000000000000⟩

def noNumber : Double := ⟨0x7FF8000000000000⟩

/-- The double nearest to `m` times ten to the `e`. Magnitudes far outside the range of doubles are
settled by counting digits. -/
def nearest (m : Nat) (e : Int) : Double :=
  let magnitude := ((Nat.toDigits 10 m).length : Int) + e
  if m = 0 ∨ magnitude < -400 then ⟨0⟩
  else if 400 < magnitude then infinite
  else .ofFloat (Float.ofScientific m (e < 0) e.natAbs)

def digitValue (ds : List Char) : Nat :=
  ds.foldl (fun n c => n * 10 + (c.toNat - '0'.toNat)) 0

/-- The exponent that a text after the mantissa spells. -/
def exponentOf? : List Char → Option Int
  | [] => some 0
  | c :: rest =>
    if c = 'e' ∨ c = 'E' then
      let (negative, ds) :=
        match rest with
        | '-' :: r => (true, r)
        | '+' :: r => (false, r)
        | r => (false, r)
      if ds.isEmpty ∨ !ds.all Char.isDigit then none
      else some (if negative then -(digitValue ds : Int) else digitValue ds)
    else none

/-- A number without sign: digits, a point, digits, an exponent. One digit at least is due. -/
def magnitude? (cs : List Char) : Option Double :=
  let whole := cs.takeWhile Char.isDigit
  let (fraction, rest) :=
    match cs.dropWhile Char.isDigit with
    | '.' :: r => (r.takeWhile Char.isDigit, r.dropWhile Char.isDigit)
    | r => ([], r)
  if whole.isEmpty && fraction.isEmpty then none
  else (exponentOf? rest).map fun e => nearest (digitValue (whole ++ fraction)) (e - fraction.length)

/-- A number without sign, or a word for a value that is none. -/
def unsignedDouble? (cs : List Char) : Option Double :=
  let word := String.ofList (cs.map Char.toLower)
  if word = "inf" ∨ word = "infinity" then some infinite
  else if word = "nan" then some noNumber
  else magnitude? cs

def readDouble? (s : String) : Option Double :=
  match s.toList with
  | '-' :: rest => (unsignedDouble? rest).map Double.neg
  | '+' :: rest => unsignedDouble? rest
  | cs => unsignedDouble? cs

/-! ## Writing -/

/-- `num / den` rounded to the nearest integer, a half going to the even neighbour. -/
def roundDiv (num den : Nat) : Nat :=
  let q := num / den
  let r := num % den
  if 2 * r < den then q
  else if den < 2 * r then q + 1
  else if q % 2 = 0 then q else q + 1

/-- The number of fractions that a word can store, and the value of the bit before them. -/
def fractions : Nat := 0x10000000000000

/-- The exponent in a word, as it is stored. -/
def storedExponent (x : Double) : Nat := x.bits.toNat / fractions % 0x800

/-- The fraction in a word, as it is stored. -/
def storedFraction (x : Double) : Nat := x.bits.toNat % fractions

/-- The stored exponent of infinity and of what is no number. -/
def topExponent : Nat := 0x7FF

/-- A finite double without its sign, as `m` times two to the `e`. -/
def parts (x : Double) : Nat × Int :=
  if storedExponent x = 0 then (storedFraction x, -1074)
  else (fractions + storedFraction x, (storedExponent x : Int) - 1075)

/-- A finite double without its sign, multiplied by `scale` and rounded to an integer. -/
def scaled (scale : Nat) (x : Double) : Nat :=
  let (m, e) := parts x
  if 0 ≤ e then (m <<< e.natAbs) * scale else roundDiv (m * scale) (1 <<< e.natAbs)

/-- The digits of `n`, with zeros in front up to a width. -/
def padded (width n : Nat) : String :=
  let ds := toString n
  String.ofList (List.replicate (width - ds.length) '0') ++ ds

/-- A double with a number of decimal places. What is no number is written without its sign. -/
def fixed (places : Nat) (x : Double) : String :=
  let sign := if x.isNegative then "-" else ""
  if storedExponent x = topExponent then if storedFraction x = 0 then sign ++ "inf" else "NaN"
  else
    let unit := Nat.pow 10 places
    let n := scaled unit x
    sign ++ toString (n / unit) ++ "." ++ padded places (n % unit)

/-- The word of a double in sixteen hexadecimal digits. -/
def hexBits (x : Double) : String :=
  let ds := Nat.toDigits 16 x.bits.toNat
  String.ofList (List.replicate (16 - ds.length) '0' ++ ds)

end Decimal

end AdmissionGate
