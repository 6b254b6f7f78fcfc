import AdmissionGate.Json.Basic

/-!
Compact JSON text: no blanks, members in the order in which the value holds them, and in strings a
backslash before quotes, backslashes and control characters.
-/

namespace AdmissionGate.Json

/-- The hexadecimal digit of a number below sixteen. -/
def hexDigit (n : Nat) : Char :=
  Nat.digitChar (n % 16)

/-- A character inside of a string literal. -/
def escapeChar (c : Char) : List Char :=
  if c = '"' then ['\\', '"']
  else if c = '\\' then ['\\', '\\']
  else if c.toNat = 0x08 then ['\\', 'b']
  else if c.toNat = 0x0C then ['\\', 'f']
  else if c = '\n' then ['\\', 'n']
  else if c = '\r' then ['\\', 'r']
  else if c = '\t' then ['\\', 't']
  else if c.toNat < 0x20 then ['\\', 'u', '0', '0', hexDigit (c.toNat / 16), hexDigit c.toNat]
  else [c]

def renderString (s : String) : List Char :=
  '"' :: s.toList.flatMap escapeChar ++ ['"']

def renderDigits (ds : List Nat) : List Char :=
  ds.map Nat.digitChar

def renderNumeral (n : Numeral) : List Char :=
  (if n.negative then ['-'] else []) ++ renderDigits n.whole
    ++ (if n.fraction.isEmpty then [] else '.' :: renderDigits n.fraction)
    ++ match n.exponent with
      | none => []
      | some (negative, ds) => 'e' :: (if negative then ['-'] else []) ++ renderDigits ds

mutual

def renderChars : Json → List Char
  | .null => ['n', 'u', 'l', 'l']
  | .bool true => ['t', 'r', 'u', 'e']
  | .bool false => ['f', 'a', 'l', 's', 'e']
  | .number n => renderNumeral n
  | .string s => renderString s
  | .array [] => ['[', ']']
  | .array (v :: rest) => '[' :: renderChars v ++ renderItems rest
  | .object [] => [Char.ofNat 0x7B, Char.ofNat 0x7D]
  | .object ((n, v) :: rest) =>
    Char.ofNat 0x7B :: renderString n ++ ':' :: renderChars v ++ renderMembers rest

/-- The items after the first, and the closing bracket. -/
def renderItems : List Json → List Char
  | [] => [']']
  | v :: rest => ',' :: renderChars v ++ renderItems rest

/-- The members after the first, and the closing bracket. -/
def renderMembers : List (String × Json) → List Char
  | [] => [Char.ofNat 0x7D]
  | (n, v) :: rest => ',' :: renderString n ++ ':' :: renderChars v ++ renderMembers rest

end

def render (v : Json) : String :=
  String.ofList (renderChars v)

end AdmissionGate.Json
