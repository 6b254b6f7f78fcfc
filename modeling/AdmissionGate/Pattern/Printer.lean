import AdmissionGate.Pattern.Basic

/-!
The usual written form of a pattern: a group for alternatives, a mark after what is repeated, and a
backslash before a character that would mean something else.
-/

namespace AdmissionGate

namespace CharSet

/-- Characters that are written with a backslash before them. -/
def needsEscape (c : Char) : Bool :=
  c == '*' || c == '\\'

def render : CharSet → List Char
  | .literal c => if needsEscape c then ['\\', c] else [c]
  | .except c => if c == '\n' then ['.'] else ['[', '^', c, ']']
  | .word => ['\\', 'w']
  | .digit => ['\\', 'd']
  | .blank => ['\\', 's']

end CharSet

namespace Pattern

/-- The written form, in which `open?` tells whether alternatives already stand in a group. -/
def renderIn : Bool → Pattern → List Char
  | _, .empty => []
  | _, .one s => s.render
  | _, .seq p (.many r q) =>
    if p = q then renderIn false p ++ '+' :: (if r then ['?'] else [])
    else renderIn false p ++ renderIn false q ++ '*' :: (if r then ['?'] else [])
  | _, .seq p q => renderIn false p ++ renderIn false q
  | false, .alt p q => '(' :: renderIn true p ++ '|' :: renderIn true q ++ [')']
  | true, .alt p q => renderIn true p ++ '|' :: renderIn true q
  | _, .many r p => renderIn false p ++ '*' :: (if r then ['?'] else [])
  | _, .boundary => ['\\', 'b']

def render (p : Pattern) : String :=
  String.ofList (renderIn false p)

end Pattern

end AdmissionGate
