/-
# RobotCombat.Fighter.Status — the marks on a fighter

A fighter carries four named marks. As a number the marks are the four low bits
of a byte; its high half means nothing to the game and is carried along. As text
they are their names with bars between, the high half as one hex number at the
end.
-/
import RobotCombat.Text.Blank
import RobotCombat.Json.Reader

namespace RobotCombat

set_option autoImplicit false

/-- The marks on a fighter. -/
structure Status where
  destroyed : Bool
  inPit : Bool
  onSpikes : Bool
  inContact : Bool
  extra : Fin 16
  deriving DecidableEq, Repr

namespace Status

def none : Status := ⟨false, false, false, false, 0⟩

/-- The marks of a byte. -/
def ofByte (n : Nat) : Status :=
  ⟨n.testBit 0, n.testBit 1, n.testBit 2, n.testBit 3, Fin.ofNat 16 (n / 16)⟩

/-- The marks that either of two has. -/
def union (a b : Status) : Status :=
  ⟨a.destroyed || b.destroyed, a.inPit || b.inPit, a.onSpikes || b.onSpikes,
    a.inContact || b.inContact, a.extra ||| b.extra⟩

/-- Without the marks that are set anew in every tick. -/
def forNewTick (s : Status) : Status :=
  { s with onSpikes := false, inContact := false }

/-- The marks with their names, in the order of their bits. -/
def named (s : Status) : List (Bool × String) :=
  [(s.destroyed, "DESTROYED"), (s.inPit, "IN_PIT"), (s.onSpikes, "ON_SPIKES"),
   (s.inContact, "IN_CONTACT")]

/-- The hex text of the high half. -/
def extraText (n : Fin 16) : String :=
  "0x" ++ String.ofList (Nat.toDigits 16 n.val) ++ "0"

/-- The marks as text. -/
def text (s : Status) : String :=
  " | ".intercalate
    (s.named.filterMap (fun m => if m.1 then some m.2 else .none)
      ++ if s.extra = 0 then [] else [extraText s.extra])

/-- The number that hex digits write, with an optional plus sign. -/
def hexByte? (digits : List Char) : Option Nat :=
  let digits := match digits with
    | '+' :: rest => rest
    | _ => digits
  if digits.isEmpty then .none
  else
    match digits.mapM Json.hexValue? with
    | some values =>
      let n := values.foldl (fun n d => 16 * n + d) 0
      if n < 256 then some n else .none
    | .none => .none

/-- The marks of one part of a text. -/
def part? (part : List Char) : Option Status :=
  match part with
  | '0' :: 'x' :: digits => (hexByte? digits).map ofByte
  | _ =>
    if part = "DESTROYED".toList then some (ofByte 1)
    else if part = "IN_PIT".toList then some (ofByte 2)
    else if part = "ON_SPIKES".toList then some (ofByte 4)
    else if part = "IN_CONTACT".toList then some (ofByte 8)
    else .none

/-- The marks of a text. A text of blanks has none; otherwise every part between
bars is a name or a hex number. -/
def ofText? (s : String) : Option Status :=
  let characters := s.toList
  if (Text.trim characters).isEmpty then some none
  else
    ((Text.splitAt '|' characters).mapM fun part => part? (Text.trim part)).map
      fun parts => parts.foldl union none

end Status

end RobotCombat
