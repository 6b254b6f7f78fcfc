import AdmissionGate.Text.Classes

/-!
Patterns over texts. A `CharSet` names one character, a `Pattern` a set of stretches of a text;
`boundary` holds between a word character and a neighbour that is none, or the end of the text.
Letters are matched in either case: `foldAscii` sends the characters with the same simple case
folding as an ASCII letter to that letter.
-/

namespace AdmissionGate

/-- The lower-case ASCII letter that a character folds to, for every character that folds to one;
every other character itself. The long s and the Kelvin sign are the only ones outside ASCII. -/
def foldAscii (c : Char) : Char :=
  if c.toNat < 0x80 then c.toLower
  else if c.toNat = 0x17F then 's'
  else if c.toNat = 0x212A then 'k'
  else c

/-- A set of characters that a pattern asks for. -/
inductive CharSet where
  /-- An ASCII character, a letter in either case. -/
  | literal (c : Char)
  /-- Every character but one. -/
  | except (c : Char)
  /-- Word characters. -/
  | word
  /-- Decimal digits. -/
  | digit
  /-- White space. -/
  | blank
  deriving DecidableEq, Repr

namespace CharSet

/-- Whether a character belongs to the set. -/
def has : CharSet → Char → Bool
  | .literal a, c => foldAscii c == foldAscii a
  | .except a, c => foldAscii c != foldAscii a
  | .word, c => Text.isWord c
  | .digit, c => Text.isDecimalDigit c
  | .blank, c => Text.isBlank c

end CharSet

/-- A pattern for stretches of a text. -/
inductive Pattern where
  /-- The empty stretch. -/
  | empty
  /-- One character of a set. -/
  | one (s : CharSet)
  /-- A stretch of the first pattern and, right after it, one of the second. -/
  | seq (p q : Pattern)
  /-- A stretch of either pattern. -/
  | alt (p q : Pattern)
  /-- Any number of stretches one after the other; `reluctant` is a matter of spelling alone. -/
  | many (reluctant : Bool) (p : Pattern)
  /-- The empty stretch at the edge of a word. -/
  | boundary
  deriving DecidableEq, Repr

namespace Pattern

def some (p : Pattern) : Pattern :=
  .seq p (.many false p)

/-- One pattern after the other. -/
def all : List Pattern → Pattern
  | [] => .empty
  | [p] => p
  | p :: ps => .seq p (all ps)

/-- Any one of the patterns. -/
def any : List Pattern → Pattern
  | [] => .empty
  | [p] => p
  | p :: ps => .alt p (any ps)

/-- The characters of a text, letters in either case. -/
def text (s : String) : Pattern :=
  all (s.toList.map fun c => .one (.literal c))

end Pattern

end AdmissionGate
