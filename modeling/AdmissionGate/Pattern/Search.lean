import AdmissionGate.Pattern.Basic

/-!
Searching a text for a pattern. `Pattern.after` lists what is still to be matched once a pattern
has read a character, and `Pattern.isEmptyAt` says whether it is satisfied without reading any.
`search` walks along the text with the set of everything that is still to be matched by stretches
begun so far, and answers at the first position where one of them is complete.
-/

namespace AdmissionGate

namespace Pattern

/-- Whether the empty stretch matches between two neighbours, each given by whether it is a word
character; the ends of the text count as none. -/
def isEmptyAt (before after : Bool) : Pattern → Bool
  | .empty => true
  | .one _ => false
  | .seq p q => isEmptyAt before after p && isEmptyAt before after q
  | .alt p q => isEmptyAt before after p || isEmptyAt before after q
  | .many _ _ => true
  | .boundary => before != after

def andThen : Pattern → Pattern → Pattern
  | .empty, q => q
  | p, q => .seq p q

/-- What remains to be matched after the character `c`, which stands after a word character iff
`before` holds. -/
def after (before : Bool) (c : Char) : Pattern → List Pattern
  | .empty => []
  | .one s => if s.has c then [.empty] else []
  | .seq p q =>
    (after before c p).map (·.andThen q)
      ++ if isEmptyAt before (Text.isWord c) p then after before c q else []
  | .alt p q => after before c p ++ after before c q
  | .many r p => (after before c p).map (·.andThen (.many r p))
  | .boundary => []

/-- Searches the rest of a text for `p`, or for the completion of one of the patterns `live`. -/
def searchFrom (p : Pattern) : Bool → List Pattern → List Char → Bool
  | before, live, [] => (p :: live).any (isEmptyAt before false)
  | before, live, c :: rest =>
    (p :: live).any (isEmptyAt before (Text.isWord c))
      || searchFrom p (Text.isWord c) ((p :: live).flatMap (after before c)).eraseDups rest

/-- Whether some stretch of the text matches the pattern. -/
def search (p : Pattern) (cs : List Char) : Bool :=
  searchFrom p false [] cs

end Pattern

end AdmissionGate
