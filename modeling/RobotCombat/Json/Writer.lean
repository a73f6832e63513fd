/-
# RobotCombat.Json.Writer — a document written as text

`compact` writes no blanks. `pretty` puts every item and member on a line of its
own, two spaces deeper than what holds it, and leaves an empty array or object
on one line. Strings escape the quote, the backslash and the control characters,
and nothing else. A token that denotes no text is written as half a pair.
-/
import RobotCombat.Json.Value

namespace RobotCombat.Json

set_option autoImplicit false

/-- A hex digit. -/
def hexDigit (n : Nat) : Char :=
  if n < 10 then Char.ofNat ('0'.toNat + n) else Char.ofNat ('a'.toNat + (n - 10))

/-- A character inside a string token. -/
def escape (c : Char) : List Char :=
  if c = '"' then ['\\', '"']
  else if c = '\\' then ['\\', '\\']
  else if c = '\x08' then ['\\', 'b']
  else if c = '\x0c' then ['\\', 'f']
  else if c = '\n' then ['\\', 'n']
  else if c = '\r' then ['\\', 'r']
  else if c = '\t' then ['\\', 't']
  else if c < ' ' then ['\\', 'u', '0', '0', hexDigit (c.toNat / 16), hexDigit (c.toNat % 16)]
  else [c]

/-- A string token. -/
def stringToken : Option String → List Char
  | some s => '"' :: s.toList.flatMap escape ++ ['"']
  | none => ['"', '\\', 'u', 'd', '8', '0', '0', '"']

/-- The digits of a number. -/
def digitChars (n : Nat) : List Char := Nat.toDigits 10 n

/-- The point and the digits after it; nothing where there are no digits. -/
def fractionChars : List Nat → List Char
  | [] => []
  | digits => '.' :: digits.map fun d => Char.ofNat ('0'.toNat + d)

/-- A numeral as text. -/
def Numeral.chars (n : Numeral) : List Char :=
  (if n.negative then ['-'] else []) ++ digitChars n.whole
    ++ fractionChars n.fraction
    ++ (match n.exponent with
      | none => []
      | some e => 'e' :: ((if e < 0 then ['-'] else []) ++ digitChars e.natAbs))

mutual

/-- A value without blanks. -/
def compactChars : Json → List Char
  | .null => ['n', 'u', 'l', 'l']
  | .bool true => ['t', 'r', 'u', 'e']
  | .bool false => ['f', 'a', 'l', 's', 'e']
  | .number n => n.chars
  | .string s => stringToken s
  | .array items => '[' :: compactItems items
  | .object members => '\x7b' :: compactMembers members

/-- The items of an array and its closing bracket. -/
def compactItems : List Json → List Char
  | [] => [']']
  | [item] => compactChars item ++ [']']
  | item :: items => compactChars item ++ ',' :: compactItems items

/-- The members of an object and its closing brace. -/
def compactMembers : List (Option String × Json) → List Char
  | [] => ['\x7d']
  | [(key, value)] => stringToken key ++ ':' :: compactChars value ++ ['\x7d']
  | (key, value) :: members =>
    stringToken key ++ ':' :: compactChars value ++ ',' :: compactMembers members

end

/-- A line break and the blanks of a depth. -/
def newLine (depth : Nat) : List Char :=
  '\n' :: List.replicate (2 * depth) ' '

mutual

/-- A value over several lines, at a depth. -/
def prettyChars (depth : Nat) : Json → List Char
  | .null => ['n', 'u', 'l', 'l']
  | .bool true => ['t', 'r', 'u', 'e']
  | .bool false => ['f', 'a', 'l', 's', 'e']
  | .number n => n.chars
  | .string s => stringToken s
  | .array [] => ['[', ']']
  | .array (item :: items) =>
    '[' :: newLine (depth + 1) ++ prettyChars (depth + 1) item ++ prettyItems depth items
  | .object [] => ['\x7b', '\x7d']
  | .object ((key, value) :: members) =>
    '\x7b' :: newLine (depth + 1) ++ stringToken key ++ ':' :: ' ' ::
      prettyChars (depth + 1) value ++ prettyMembers depth members

/-- The items after the first and the closing bracket. -/
def prettyItems (depth : Nat) : List Json → List Char
  | [] => newLine depth ++ [']']
  | item :: items =>
    ',' :: newLine (depth + 1) ++ prettyChars (depth + 1) item ++ prettyItems depth items

/-- The members after the first and the closing brace. -/
def prettyMembers (depth : Nat) : List (Option String × Json) → List Char
  | [] => newLine depth ++ ['\x7d']
  | (key, value) :: members =>
    ',' :: newLine (depth + 1) ++ stringToken key ++ ':' :: ' ' ::
      prettyChars (depth + 1) value ++ prettyMembers depth members

end

/-- A document on one line. -/
def compact (j : Json) : String := String.ofList (compactChars j)

/-- A document over several lines. -/
def pretty (j : Json) : String := String.ofList (prettyChars 0 j)

end RobotCombat.Json
