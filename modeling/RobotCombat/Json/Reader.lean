/-
# RobotCombat.Json.Reader — a document read from text

`parse?` reads exactly one value with blanks around it. Blanks are space, tab,
line feed and carriage return; a number has no leading zero; a string holds no
control character and knows the eight short escapes and `\u` with four hex
digits. Every reader returns the value and the rest of the text; the nested
readers count down a fuel that the length of the text covers.
-/
import RobotCombat.Json.Value
import RobotCombat.Number.Literal

namespace RobotCombat.Json

set_option autoImplicit false

open Number (isDigit digitValue? digitsValue)

/-- The blanks between tokens. -/
def isBlank (c : Char) : Bool :=
  c = ' ' || c = '\n' || c = '\t' || c = '\r'

/-- The text after its leading blanks. -/
def skipBlanks (text : List Char) : List Char :=
  text.dropWhile isBlank

/-- The value of a hex digit. -/
def hexValue? (c : Char) : Option Nat :=
  if '0' ≤ c ∧ c ≤ '9' then some (c.toNat - '0'.toNat)
  else if 'a' ≤ c ∧ c ≤ 'f' then some (c.toNat - 'a'.toNat + 10)
  else if 'A' ≤ c ∧ c ≤ 'F' then some (c.toNat - 'A'.toNat + 10)
  else none

/-- Four hex digits as a code unit. -/
def codeUnit? (a b c d : Char) : Option Nat := do
  let a ← hexValue? a
  let b ← hexValue? b
  let c ← hexValue? c
  let d ← hexValue? d
  pure (((a * 16 + b) * 16 + c) * 16 + d)

/-- The character of a short escape. -/
def shortEscape? : Char → Option Char
  | '"' => some '"'
  | '\\' => some '\\'
  | '/' => some '/'
  | 'b' => some '\x08'
  | 'f' => some '\x0c'
  | 'n' => some '\n'
  | 'r' => some '\r'
  | 't' => some '\t'
  | _ => none

/-- A piece of a string token: a character, or a code unit written as `\u`. -/
inductive Piece where
  | char (c : Char)
  | unit (n : Nat)
  deriving DecidableEq, Repr

/-- The pieces of a string token after its opening quote. -/
def pieces? : List Char → Option (List Piece × List Char)
  | [] => none
  | '"' :: rest => some ([], rest)
  | '\\' :: 'u' :: a :: b :: c :: d :: rest =>
    match codeUnit? a b c d, pieces? rest with
    | some unit, some (pieces, rest) => some (.unit unit :: pieces, rest)
    | _, _ => none
  | '\\' :: c :: rest =>
    match shortEscape? c, pieces? rest with
    | some c, some (pieces, rest) => some (.char c :: pieces, rest)
    | _, _ => none
  | c :: rest =>
    if c < ' ' then none
    else
      match pieces? rest with
      | some (pieces, rest) => some (.char c :: pieces, rest)
      | none => none

/-- Whether a code unit is the first half of a pair. -/
def isHighHalf (n : Nat) : Bool := 0xD800 ≤ n && n < 0xDC00

/-- Whether a code unit is the second half of a pair. -/
def isLowHalf (n : Nat) : Bool := 0xDC00 ≤ n && n < 0xE000

/-- The characters that pieces denote. A pair of halves is one character; a half
alone denotes none. -/
def denote? : List Piece → Option (List Char)
  | [] => some []
  | .char c :: rest => (denote? rest).map (c :: ·)
  | .unit high :: .unit low :: rest =>
    if isHighHalf high then
      if isLowHalf low then
        (denote? rest).map (Char.ofNat (0x10000 + (high - 0xD800) * 0x400 + (low - 0xDC00)) :: ·)
      else none
    else if isLowHalf high then none
    else (denote? (.unit low :: rest)).map (Char.ofNat high :: ·)
  | .unit n :: rest =>
    if isHighHalf n || isLowHalf n then none
    else (denote? rest).map (Char.ofNat n :: ·)

/-- A string token after its opening quote. -/
def stringBody? (text : List Char) : Option (Option String × List Char) :=
  (pieces? text).map fun (pieces, rest) =>
    ((denote? pieces).map String.ofList, rest)

/-- The whole part of a number: zero alone, or digits that start otherwise. -/
def wholePart? : List Char → Option (Nat × List Char)
  | [] => none
  | c :: rest =>
    if c = '0' then
      match rest with
      | d :: _ => if isDigit d then none else some (0, rest)
      | [] => some (0, rest)
    else if isDigit c then
      some (digitsValue (c :: rest.takeWhile isDigit), rest.dropWhile isDigit)
    else none

/-- The digits after a point, if there is one. -/
def fractionDigits? : List Char → Option (List Nat × List Char)
  | '.' :: rest =>
    let digits := rest.takeWhile isDigit
    if digits.isEmpty then none
    else some (digits.filterMap digitValue?, rest.dropWhile isDigit)
  | text => some ([], text)

/-- The exponent, if there is one. -/
def exponentDigits? : List Char → Option (Option Int × List Char)
  | [] => some (none, [])
  | c :: rest =>
    if c = 'e' ∨ c = 'E' then
      let (negative, rest) := Number.splitSign rest
      let digits := rest.takeWhile isDigit
      if digits.isEmpty then none
      else
        let e : Int := digitsValue digits
        some (some (if negative then -e else e), rest.dropWhile isDigit)
    else some (none, c :: rest)

/-- An unsigned number. -/
def magnitudeNumeral? (negative : Bool) (text : List Char) : Option (Numeral × List Char) := do
  let (whole, rest) ← wholePart? text
  let (fraction, rest) ← fractionDigits? rest
  let (exponent, rest) ← exponentDigits? rest
  pure (⟨negative, whole, fraction, exponent⟩, rest)

/-- A number. -/
def numeral? : List Char → Option (Numeral × List Char)
  | '-' :: rest => magnitudeNumeral? true rest
  | text => magnitudeNumeral? false text

/-- A fixed word at the head of a text. -/
def word? (word : List Char) (value : Json) (text : List Char) : Option (Json × List Char) :=
  if word.isPrefixOf text then some (value, text.drop word.length) else none

mutual

/-- A value at the head of a text, after blanks. -/
def value? : Nat → List Char → Option (Json × List Char)
  | 0, _ => none
  | fuel + 1, text =>
    match skipBlanks text with
    | [] => none
    | '"' :: rest => (stringBody? rest).map fun (s, rest) => (.string s, rest)
    | '[' :: rest =>
      match skipBlanks rest with
      | ']' :: rest => some (.array [], rest)
      | rest => (items? fuel rest).map fun (items, rest) => (.array items, rest)
    | '\x7b' :: rest =>
      match skipBlanks rest with
      | '\x7d' :: rest => some (.object [], rest)
      | rest => (members? fuel rest).map fun (members, rest) => (.object members, rest)
    | 'n' :: rest => word? ['n', 'u', 'l', 'l'] .null ('n' :: rest)
    | 't' :: rest => word? ['t', 'r', 'u', 'e'] (.bool true) ('t' :: rest)
    | 'f' :: rest => word? ['f', 'a', 'l', 's', 'e'] (.bool false) ('f' :: rest)
    | rest => (numeral? rest).map fun (n, rest) => (.number n, rest)

/-- The values of an array that is not empty, and its closing bracket. -/
def items? : Nat → List Char → Option (List Json × List Char)
  | 0, _ => none
  | fuel + 1, text =>
    match value? fuel text with
    | none => none
    | some (item, rest) =>
      match skipBlanks rest with
      | ']' :: rest => some ([item], rest)
      | ',' :: rest => (items? fuel rest).map fun (items, rest) => (item :: items, rest)
      | _ => none

/-- The members of an object that is not empty, and its closing brace. -/
def members? : Nat → List Char → Option (List (Option String × Json) × List Char)
  | 0, _ => none
  | fuel + 1, text =>
    match skipBlanks text with
    | '"' :: rest =>
      match stringBody? rest with
      | none => none
      | some (key, rest) =>
        match skipBlanks rest with
        | ':' :: rest =>
          match value? fuel rest with
          | none => none
          | some (value, rest) =>
            match skipBlanks rest with
            | '\x7d' :: rest => some ([(key, value)], rest)
            | ',' :: rest =>
              (members? fuel rest).map fun (members, rest) => ((key, value) :: members, rest)
            | _ => none
        | _ => none
    | _ => none

end

/-- The value that a whole text writes. -/
def parse? (text : String) : Option Json :=
  let characters := text.toList
  match value? (characters.length + 1) characters with
  | some (value, rest) => if (skipBlanks rest).isEmpty then some value else none
  | none => none

end RobotCombat.Json
