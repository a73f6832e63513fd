/-
# RobotCombat.Number.Literal — a decimal numeral read as a 32-bit number

A numeral is an optional sign, decimal digits with an optional point among,
before or after them, and an optional exponent `e` or `E` with an optional sign
and at least one digit. Its value is the 32-bit number nearest to the decimal.
Numerals past the largest number are refused, and so is every other text.
-/
import RobotCombat.Number.Single

namespace RobotCombat.Number

set_option autoImplicit false

/-- The value of a decimal digit. -/
def digitValue? (c : Char) : Option Nat :=
  if '0' ≤ c ∧ c ≤ '9' then some (c.toNat - '0'.toNat) else none

/-- Whether a character is a decimal digit. -/
def isDigit (c : Char) : Bool :=
  (digitValue? c).isSome

/-- The number that a row of digits writes. -/
def digitsValue (digits : List Char) : Nat :=
  digits.foldl (fun n c => 10 * n + (digitValue? c).getD 0) 0

/-- Takes an optional sign off a text; true is minus. -/
def splitSign : List Char → Bool × List Char
  | '+' :: rest => (false, rest)
  | '-' :: rest => (true, rest)
  | text => (false, text)

/-- The exponent that a text after the digits gives: none written is zero. -/
def exponentPart? : List Char → Option Int
  | [] => some 0
  | c :: rest =>
    if c = 'e' ∨ c = 'E' then
      let (negative, digits) := splitSign rest
      if digits.isEmpty || !digits.all isDigit then none
      else if negative then some (-(digitsValue digits : Int))
      else some (digitsValue digits)
    else none

/-- The digits after a point at the head of a text, and what follows them. -/
def fractionPart : List Char → List Char × List Char
  | '.' :: rest => (rest.takeWhile isDigit, rest.dropWhile isDigit)
  | text => ([], text)

/-- The digits and the decimal exponent of an unsigned numeral. -/
def unsignedNumeral? (text : List Char) : Option (Nat × Int) :=
  let whole := text.takeWhile isDigit
  let (fraction, rest) := fractionPart (text.dropWhile isDigit)
  if whole.isEmpty && fraction.isEmpty then none
  else (exponentPart? rest).map fun e => (digitsValue (whole ++ fraction), e - fraction.length)

/-- The finite number that a text writes. -/
def readSingle? (text : List Char) : Option Float32 :=
  let (negative, unsigned) := splitSign text
  match unsignedNumeral? unsigned with
  | none => none
  | some (digits, exponent) =>
    let word := single.nearestDecimal digits exponent
    if word < single.infinityWord then some (ofWord negative word) else none

end RobotCombat.Number
