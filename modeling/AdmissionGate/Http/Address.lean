import AdmissionGate.Pattern.Shape

/-!
Internet addresses of both versions, read from and written in their usual forms. A colon form may
leave out one run of zero groups and may end in a dotted form; it is written with its longest run of
two or more zero groups left out, and with a dotted end where it wraps an address of version 4.
-/

namespace AdmissionGate

inductive Address where
  | v4 (a b c d : UInt8)
  | v6 (groups : Fin 8 → UInt16)

namespace Address

/-! ## Reading -/

/-- The value of a digit in a base of at most sixteen. -/
def digitIn? (base : Nat) (c : Char) : Option Nat :=
  let v :=
    if c.isDigit then some (c.toNat - '0'.toNat)
    else if isHexDigit c then some (c.toLower.toNat - 'a'.toNat + 10)
    else none
  v.filter (· < base)

/-- The leading digits of a text, and what follows them. -/
def digitsIn (base : Nat) : List Char → List Nat × List Char
  | [] => ([], [])
  | c :: rest =>
    match digitIn? base c with
    | none => ([], c :: rest)
    | some d =>
      let (ds, tail) := digitsIn base rest
      (d :: ds, tail)

def valueIn (base : Nat) (ds : List Nat) : Nat :=
  ds.foldl (fun n d => n * base + d) 0

/-- One number of a dotted form: up to three digits, no zero in front, at most 255. -/
def octet? (cs : List Char) : Option (UInt8 × List Char) :=
  let (ds, rest) := digitsIn 10 cs
  let n := valueIn 10 ds
  if ds.isEmpty ∨ 3 < ds.length ∨ (ds.head? = some 0 ∧ 1 < ds.length) ∨ 255 < n then none
  else some (n.toUInt8, rest)

/-- One group of a colon form: up to four hexadecimal digits. -/
def group? (cs : List Char) : Option (UInt16 × List Char) :=
  let (ds, rest) := digitsIn 16 cs
  if ds.isEmpty ∨ 4 < ds.length then none else some ((valueIn 16 ds).toUInt16, rest)

def expect? (c : Char) : List Char → Option (List Char)
  | [] => none
  | d :: rest => if d = c then some rest else none

def dotted? (cs : List Char) : Option ((UInt8 × UInt8 × UInt8 × UInt8) × List Char) := do
  let (a, cs) ← octet? cs
  let (b, cs) ← octet? (← expect? '.' cs)
  let (c, cs) ← octet? (← expect? '.' cs)
  let (d, cs) ← octet? (← expect? '.' cs)
  return ((a, b, c, d), cs)

/-- The two groups that a dotted form stands for. -/
def groupsOf : UInt8 × UInt8 × UInt8 × UInt8 → List UInt16
  | (a, b, c, d) => [a.toUInt16 * 256 + b.toUInt16, c.toUInt16 * 256 + d.toUInt16]

/-- Up to `room` groups, with colons between them and before the first unless it is `leading`. A
dotted form ends them. Gives the groups, whether they ended in a dotted form, and what follows. -/
def groups (leading : Bool) : Nat → List Char → List UInt16 × Bool × List Char
  | 0, cs => ([], false, cs)
  | room + 1, cs =>
    let start? := if leading then some cs else expect? ':' cs
    let wrapped? := if room = 0 then none else start?.bind dotted?
    match wrapped? with
    | some (quad, rest) => (groupsOf quad, true, rest)
    | none =>
      match start?.bind group? with
      | none => ([], false, cs)
      | some (g, rest) =>
        let (gs, dotted, tail) := groups false room rest
        (g :: gs, dotted, tail)

def colonForm? (cs : List Char) : Option (List UInt16 × List Char) :=
  let (head, dotted, rest) := groups true 8 cs
  if head.length = 8 then some (head, rest)
  else if dotted then none
  else
    match rest with
    | ':' :: ':' :: rest =>
      let (tail, _, rest) := groups true (7 - head.length) rest
      some (head ++ List.replicate (8 - head.length - tail.length) 0 ++ tail, rest)
    | _ => none

def read? (s : String) : Option Address :=
  match dotted? s.toList with
  | some ((a, b, c, d), rest) => if rest.isEmpty then some (.v4 a b c d) else none
  | none =>
    match colonForm? s.toList with
    | some (gs, []) => some (.v6 fun i => gs.getD i 0)
    | _ => none

/-! ## Writing -/

def renderDotted (a b c d : UInt8) : String :=
  ".".intercalate ([a, b, c, d].map fun n => toString n.toNat)

/-- Groups in hexadecimal digits, with colons between them. -/
def renderGroups (gs : List UInt16) : String :=
  ":".intercalate (gs.map fun g => String.ofList (Nat.toDigits 16 g.toNat))

/-- The number of zero groups at the head of a list. -/
def zeroRun (gs : List UInt16) : Nat :=
  (gs.takeWhile (· == 0)).length

/-- Position and length of the longest run of zero groups; of equal ones the first. -/
def longestRun (gs : List UInt16) : Nat × Nat :=
  (List.range gs.length).foldl
    (fun (best : Nat × Nat) i =>
      let n := zeroRun (gs.drop i)
      if best.2 < n then (i, n) else best)
    (0, 0)

def render : Address → String
  | .v4 a b c d => renderDotted a b c d
  | .v6 groups =>
    let gs := List.ofFn groups
    match gs with
    | [0, 0, 0, 0, 0, 0xFFFF, g, h] =>
      "::ffff:" ++ renderDotted (g / 256).toUInt8 (g % 256).toUInt8 (h / 256).toUInt8 (h % 256).toUInt8
    | _ =>
      let (start, n) := longestRun gs
      if 1 < n then renderGroups (gs.take start) ++ "::" ++ renderGroups (gs.drop (start + n))
      else renderGroups gs

end Address

end AdmissionGate
