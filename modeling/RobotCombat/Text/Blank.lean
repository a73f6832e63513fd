/-
# RobotCombat.Text.Blank — blanks, words and letter case

A blank is a character with the Unicode property White_Space. A word character
is an ASCII letter or digit or the underscore; letter case is that of ASCII.
Texts are lists of characters, cut at their blanks.
-/

namespace RobotCombat.Text

set_option autoImplicit false

/-- The characters with the property White_Space, as ranges. -/
def blankRanges : List (Nat × Nat) :=
  [(0x9, 0xD), (0x20, 0x20), (0x85, 0x85), (0xA0, 0xA0), (0x1680, 0x1680), (0x2000, 0x200A),
   (0x2028, 0x2029), (0x202F, 0x202F), (0x205F, 0x205F), (0x3000, 0x3000)]

/-- Whether a character is blank. -/
def isBlank (c : Char) : Bool :=
  blankRanges.any fun r => r.1 ≤ c.toNat && c.toNat ≤ r.2

/-- Whether a character may stand in a word. -/
def isWordChar (c : Char) : Bool :=
  c.isAlphanum || c = '_'

/-- Whether a text is one word. -/
def isWord (text : List Char) : Bool :=
  !text.isEmpty && text.all isWordChar

/-- The text without leading blanks. -/
def trimStart (text : List Char) : List Char :=
  text.dropWhile isBlank

/-- The text without trailing blanks. -/
def trimEnd (text : List Char) : List Char :=
  (text.reverse.dropWhile isBlank).reverse

/-- The text without blanks around it. -/
def trim (text : List Char) : List Char :=
  trimEnd (trimStart text)

/-- Whether a text starts with a blank. -/
def startsBlank : List Char → Bool
  | c :: _ => isBlank c
  | [] => false

/-- The text in small letters. -/
def lower (text : List Char) : List Char :=
  text.map Char.toLower

/-- Whether two texts differ at most in letter case. -/
def sameLetters (a b : List Char) : Bool :=
  lower a = lower b

/-- The text after a keyword at its start, in any letter case. -/
def dropKeyword? (keyword text : List Char) : Option (List Char) :=
  if sameLetters (text.take keyword.length) keyword then some (text.drop keyword.length) else none

/-- The text before the last run of characters that are not blank, and that run. -/
def splitLast (text : List Char) : List Char × List Char :=
  let back := text.reverse
  ((back.dropWhile fun c => !isBlank c).reverse, (back.takeWhile fun c => !isBlank c).reverse)

/-- Whether a text starts with another. -/
def startsWith (text start : List Char) : Bool :=
  start.isPrefixOf text

/-- The pieces of a text between a separating character. -/
def splitAt (separator : Char) : List Char → List (List Char)
  | [] => [[]]
  | c :: rest =>
    if c = separator then [] :: splitAt separator rest
    else
      match splitAt separator rest with
      | piece :: pieces => (c :: piece) :: pieces
      | [] => [[c]]

/-- The lines of a text. -/
def lines (text : List Char) : List (List Char) :=
  splitAt '\n' text

end RobotCombat.Text
