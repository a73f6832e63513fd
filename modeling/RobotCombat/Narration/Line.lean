/-
# RobotCombat.Narration.Line — one spoken line
-/

namespace RobotCombat

set_option autoImplicit false

/-- The occasion of a line. -/
inductive Occasion where
  | start
  | bigHit
  | lowHp
  | pitFall
  | wallSlam
  | finish
  | banter
  deriving DecidableEq, Repr, Inhabited

namespace Occasion

def all : List Occasion := [.start, .bigHit, .lowHp, .pitFall, .wallSlam, .finish, .banter]

def tag : Occasion → String
  | .start => "start"
  | .bigHit => "big_hit"
  | .lowHp => "low_hp"
  | .pitFall => "pit_fall"
  | .wallSlam => "wall_slam"
  | .finish => "finish"
  | .banter => "banter"

def ofTag? (tag : String) : Option Occasion :=
  all.find? fun o => o.tag = tag

end Occasion

/-- Who speaks. -/
inductive Speaker where
  | chuck
  | frank
  | both
  deriving DecidableEq, Repr, Inhabited

namespace Speaker

def all : List Speaker := [.chuck, .frank, .both]

def tag : Speaker → String
  | .chuck => "chuck"
  | .frank => "frank"
  | .both => "both"

def ofTag? (tag : String) : Option Speaker :=
  all.find? fun s => s.tag = tag

/-- The one who listens. Both together have no other. -/
def other : Speaker → Speaker
  | .chuck => .frank
  | .frank => .chuck
  | .both => .both

end Speaker

/-- A line with its time in whole milliseconds and an excitement from 1 to 10. -/
structure Line where
  timestamp : Nat
  occasion : Occasion
  message : String
  speaker : Speaker
  excitement : Nat
  deriving DecidableEq, Repr

end RobotCombat
