import AdmissionGate.Text.Classes
import AdmissionGate.Text.Split
import AdmissionGate.Text.Utf8

/-!
Files of variables. A line gives a variable its value after an equals sign; it runs on to the next one
where a quote is open. A remark stands on a line of its own or after a blank. `lines` cuts a file into
lines, and `readLine` tells what a line says. Values may be quoted and may name other variables after
a dollar sign.
-/

namespace AdmissionGate

open Text (Bytes)

namespace VariableFile

/-! ## Lines of a file -/

/-- Where one is in a line, as far as its end is concerned. -/
inductive LinePlace where
  | plain
  /-- After a blank. A second blank in a row counts as plain. -/
  | blank
  /-- After a backslash outside of quotes. -/
  | escape
  /-- Between double quotes. -/
  | double
  | doubleEscape
  /-- Between single quotes. -/
  | single
  | singleEscape
  | remark
  deriving DecidableEq, Repr

namespace LinePlace

/-- The place after a character outside of quotes that is not taken for a blank. -/
def outside (c : Char) : LinePlace :=
  if c = '\\' then .escape
  else if c = '"' then .double
  else if c = '\'' then .single
  else .plain

def next (place : LinePlace) (c : Char) : LinePlace :=
  match place with
  | .plain => if Text.isBlank c && c != '\n' && c != '\r' then .blank else outside c
  | .blank => outside c
  | .escape => .plain
  | .double => if c = '\\' then .doubleEscape else if c = '"' then .plain else .double
  | .doubleEscape => .double
  | .single => if c = '\\' then .singleEscape else if c = '\'' then .plain else .single
  | .singleEscape => .single
  | .remark => .remark

end LinePlace

/-- The lines of the rest of a file without their remarks, given what there is of the first, last
character first. A line that is open at the end of the file is none. -/
def linesFrom (place : LinePlace) (sofar : List Char) : List Char → List (Option (List Char))
  | [] =>
    if place = .remark then [some sofar.reverse]
    else if place ≠ .plain then [none]
    else if sofar.isEmpty then []
    else [some sofar.reverse]
  | c :: rest =>
    if place = .remark then
      if c = '\n' then some sofar.reverse :: linesFrom .plain [] rest
      else linesFrom .remark sofar rest
    else if c = '#' ∧ (place = .blank ∨ sofar.all Text.isBlank) then linesFrom .remark sofar rest
    else if c = '\n' ∧ place.next c = .plain then some sofar.reverse :: linesFrom .plain [] rest
    else linesFrom (place.next c) (c :: sofar) rest

/-- The mark that some programs put in front of a text. -/
def byteOrderMark : Bytes := [0xEF, 0xBB, 0xBF]

/-- The text of a file, given between its line feeds, up to the first stretch that is no text, and
whether there is none such. -/
def readable : List Bytes → List Char × Bool
  | [] => ([], true)
  | [last] => (Text.decode? last).elim ([], false) fun s => (s.toList, true)
  | stretch :: rest =>
    match Text.decode? stretch with
    | none => ([], false)
    | some s =>
      let (cs, whole) := readable rest
      (s.toList ++ '\n' :: cs, whole)

/-- The lines of a file. What is no text counts as a line that is open. -/
def lines (file : Bytes) : List (Option (List Char)) :=
  let file := if byteOrderMark.isPrefixOf file then file.drop byteOrderMark.length else file
  let (cs, whole) := readable (Text.splitAll 0x0A file)
  linesFrom .plain [] cs ++ if whole then [] else [none]

/-! ## Values -/

/-- Where one is in a value. `quoted` tells whether double quotes are open. -/
inductive ValuePlace where
  | text (quoted : Bool)
  | escape (quoted : Bool)
  /-- Between single quotes. -/
  | single
  /-- In a name after a dollar sign, which goes on as long as there are letters and numbers. -/
  | name (quoted : Bool) (sofar : List Char)
  /-- In a name in curly brackets. -/
  | bracketed (quoted : Bool) (sofar : List Char)
  /-- After a blank. Only a remark may follow. -/
  | done
  deriving DecidableEq, Repr

/-- Blanks that end a value. -/
def endsValue (c : Char) : Bool :=
  c == ' ' || c == '\t'

/-- What a character after a backslash stands for. -/
def escaped? (c : Char) : Option Char :=
  if c = 'n' then some '\n'
  else if ['\\', '\'', '"', '$', ' '].contains c then some c
  else none

/-- The rest of a value, with `look` giving the values of names. -/
def valueFrom (look : List Char → List Char) : ValuePlace → List Char → Option (List Char)
  | .text quoted, [] => if quoted then none else some []
  | .escape quoted, [] => if quoted then none else some []
  | .single, [] => none
  | .name quoted sofar, [] => if quoted then none else some (look sofar)
  | .bracketed _ _, [] => none
  | .done, [] => some []
  | .text true, c :: rest =>
    if c = '$' then valueFrom look (.name true []) rest
    else if c = '"' then valueFrom look (.text false) rest
    else if c = '\\' then valueFrom look (.escape true) rest
    else (valueFrom look (.text true) rest).map (c :: ·)
  | .text false, c :: rest =>
    if c = '$' then valueFrom look (.name false []) rest
    else if c = '\'' then valueFrom look .single rest
    else if c = '"' then valueFrom look (.text true) rest
    else if c = '\\' then valueFrom look (.escape false) rest
    else if endsValue c then valueFrom look .done rest
    else (valueFrom look (.text false) rest).map (c :: ·)
  | .escape quoted, c :: rest =>
    (escaped? c).bind fun a => (valueFrom look (.text quoted) rest).map (a :: ·)
  | .single, c :: rest =>
    if c = '\'' then valueFrom look (.text false) rest
    else (valueFrom look .single rest).map (c :: ·)
  | .name quoted sofar, c :: rest =>
    if Text.isAlphanumeric c then valueFrom look (.name quoted (sofar ++ [c])) rest
    else if c = '\x7b' ∧ sofar = [] then valueFrom look (.bracketed quoted []) rest
    else if c = '$' then (valueFrom look (.name quoted []) rest).map (look sofar ++ ·)
    else (valueFrom look (.text quoted) rest).map (look sofar ++ c :: ·)
  | .bracketed quoted sofar, c :: rest =>
    if c = '\x7d' then (valueFrom look (.text quoted) rest).map (look sofar ++ ·)
    else valueFrom look (.bracketed quoted (sofar ++ [c])) rest
  | .done, c :: rest =>
    if endsValue c then valueFrom look .done rest
    else if c = '#' then some []
    else none

def value? (look : List Char → List Char) (cs : List Char) : Option (List Char) :=
  match cs with
  | [] => some []
  | '#' :: _ => some []
  | cs => valueFrom look (.text false) cs

/-! ## What a line says -/

inductive Line where
  | nothing
  | entry (name value : String)
  | malformed
  deriving DecidableEq, Repr

/-- Characters of the names of variables, after the first. -/
def isNameChar (c : Char) : Bool :=
  c.isAlphanum || c == '_' || c == '.'

/-- The name at the head of a text, and what follows it without the blanks in between. -/
def name? : List Char → Option (List Char × List Char)
  | [] => none
  | c :: rest =>
    if c.isAlpha || c == '_' then
      some (c :: rest.takeWhile isNameChar, (rest.dropWhile isNameChar).dropWhile Text.isBlank)
    else none

/-- The word that may stand before a name. -/
def exportWord : List Char := "export".toList

/-- The name that a line gives a value, and what stands after the equals sign. -/
def assignment? (cs : List Char) : Option (List Char × List Char) := do
  let (name, rest) ← name? cs
  match rest with
  | '=' :: tail => return (name, tail)
  | _ =>
    guard (name = exportWord)
    let (name, rest) ← name? rest
    match rest with
    | '=' :: tail => return (name, tail)
    | _ => none

/-- What a line says, with `look` giving the values of names. -/
def readLine (look : List Char → List Char) (cs : List Char) : Line :=
  match Text.trimChars cs with
  | [] => .nothing
  | cs =>
    let entry? := do
      let (name, tail) ← assignment? cs
      let value ← value? look (tail.dropWhile Text.isBlank)
      return (String.ofList name, String.ofList value)
    match entry? with
    | some (name, value) => .entry name value
    | none => .malformed

end VariableFile

end AdmissionGate
