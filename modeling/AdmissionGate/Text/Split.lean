/-!
Cutting texts at a separator, and looking for a text inside another. Everything works on lists of
elements, so that it serves characters and octets alike.
-/

namespace AdmissionGate.Text

variable {α : Type} [BEq α]

/-- The pieces between the occurrences of `sep`; their number is one more than that of `sep`. -/
def splitAll (sep : α) : List α → List (List α)
  | [] => [[]]
  | c :: rest =>
    if c == sep then [] :: splitAll sep rest
    else
      match splitAll sep rest with
      | [] => [[c]]
      | piece :: pieces => (c :: piece) :: pieces

/-- What precedes the first `sep` and, if there is one, what follows it. -/
def splitFirst (sep : α) : List α → List α × Option (List α)
  | [] => ([], none)
  | c :: rest =>
    if c == sep then ([], some rest)
    else
      let (before, after) := splitFirst sep rest
      (c :: before, after)

/-- Whether `needle` occurs in a list as a stretch of neighbours. -/
def occursIn (needle : List α) : List α → Bool
  | [] => needle.isEmpty
  | c :: rest => needle.isPrefixOf (c :: rest) || occursIn needle rest

def hasText (needle s : String) : Bool :=
  occursIn needle.toList s.toList

/-- The texts between the occurrences of a character. -/
def pieces (sep : Char) (s : String) : List String :=
  (splitAll sep s.toList).map String.ofList

end AdmissionGate.Text
