import AdmissionGate.Text.Ranges
import AdmissionGate.Text.WordTable
import AdmissionGate.Text.CaseTable

/-!
Full case mapping. `lower` maps every character on its own, except that a capital sigma at the end
of a word becomes the final form of the small letter. `upperImage` is the upper-case image of one
character, which may be several characters long. The ASCII maps leave all other characters alone.
-/

namespace AdmissionGate.Text

/-- A code point shifted by the run that it belongs to, if there is one. -/
def shiftBy (runs : List CaseRun) (n : Nat) : Option Nat :=
  (runs.find? fun r => r.first ≤ n && n ≤ r.last && (n - r.first) % r.step == 0).map fun r =>
    ((n : Int) + r.shift).toNat

/-- The image of a character above ASCII: a listed expansion, else the shift of its run, else the
character itself. -/
def imageBy (expansions : List (Nat × List Nat)) (runs : List CaseRun) (c : Char) : List Char :=
  match expansions.lookup c.toNat with
  | some ns => ns.map Char.ofNat
  | none => [(shiftBy runs c.toNat).elim c Char.ofNat]

/-- The lower-case image of one character outside any context. -/
def lowerImage (c : Char) : List Char :=
  if c.toNat < 0x80 then [c.toLower] else imageBy lowerExpansions lowerRuns c

def upperImage (c : Char) : List Char :=
  if c.toNat < 0x80 then [c.toUpper] else imageBy upperExpansions upperRuns c

/-- Characters that have case. -/
def isCased (c : Char) : Bool :=
  if c.toNat < 0x80 then c.isAlpha else inRanges casedRanges c.toNat

/-- Characters that a case context looks through. -/
def isCaseIgnorable (c : Char) : Bool :=
  inRanges caseIgnorableRanges c.toNat

/-- Whether the nearest character that counts, from the head of the list on, has case. -/
def meetsCased (cs : List Char) : Bool :=
  (cs.dropWhile isCaseIgnorable).head?.any isCased

def capitalSigma : Char := Char.ofNat 0x3A3

/-- The small sigma that ends a word. -/
def finalSigma : Char := Char.ofNat 0x3C2

/-- Lower case of a text whose characters before `cs` are `before`, nearest first. A capital sigma
takes its final form after a letter and before none. -/
def lowerFrom : List Char → List Char → List Char
  | _, [] => []
  | before, c :: rest =>
    if c = capitalSigma ∧ meetsCased before ∧ ¬ meetsCased rest then
      finalSigma :: lowerFrom (c :: before) rest
    else lowerImage c ++ lowerFrom (c :: before) rest

/-- Lower case of a list of characters. -/
def lowerChars (cs : List Char) : List Char :=
  lowerFrom [] cs

def lower (s : String) : String :=
  String.ofList (lowerChars s.toList)

/-- A text with its ASCII letters in lower case. -/
def lowerAscii (s : String) : String :=
  String.ofList (s.toList.map Char.toLower)

/-- Equality up to the case of ASCII letters. -/
def eqIgnoringAsciiCase (s t : String) : Bool :=
  lowerAscii s == lowerAscii t

end AdmissionGate.Text
