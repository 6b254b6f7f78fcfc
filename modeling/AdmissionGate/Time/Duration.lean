import AdmissionGate.Decimal.Double

/-!
Lengths of time, in whole nanoseconds, and their written form: the largest unit that leaves a whole
part, and the rest as a fraction without zeros at its end.
-/

namespace AdmissionGate

structure Duration where
  nanos : Nat
  deriving DecidableEq, Repr

namespace Duration

def ofParts (secs nanos : Nat) : Duration := ⟨secs * 1000000000 + nanos⟩

def ofMicros (micros : Nat) : Duration := ⟨micros * 1000⟩

def ofMillis (millis : Nat) : Duration := ⟨millis * 1000000⟩

def ofSecs (secs : Nat) : Duration := ⟨secs * 1000000000⟩

def micros (d : Duration) : Nat := d.nanos / 1000

def millis (d : Duration) : Nat := d.nanos / 1000000

/-- A number and its fraction, given as `rest` units of ten to the minus `places`. -/
def withFraction (whole rest places : Nat) : String :=
  let ds := (Decimal.padded places rest).toList.reverse.dropWhile (· == '0')
  if ds.isEmpty then toString whole else toString whole ++ "." ++ String.ofList ds.reverse

def render (d : Duration) : String :=
  let n := d.nanos
  if 1000000000 ≤ n then withFraction (n / 1000000000) (n % 1000000000) 9 ++ "s"
  else if 1000000 ≤ n then withFraction (n / 1000000) (n % 1000000) 6 ++ "ms"
  else if 1000 ≤ n then withFraction (n / 1000) (n % 1000) 3 ++ "µs"
  else toString n ++ "ns"

end Duration

end AdmissionGate
