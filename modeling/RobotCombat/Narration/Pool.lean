/-
# RobotCombat.Narration.Pool — what the narrators can say

A template is a row of words and slots. `text` writes a slot as its name in
braces; `fill` replaces the slots of a text by values, one slot after the other,
so that a value put in early is searched for the slots that come later. The
value itself is not searched for the slot that it replaces: occurrences are found
from left to right and do not overlap.
-/
import RobotCombat.Narration.Line

set_option autoImplicit false

namespace RobotCombat.Text

/-- Replaces every occurrence of `key`, which is not empty, by `value`. -/
def replaceAll (key value : List Char) : Nat → List Char → List Char
  | 0, text => text
  | _ + 1, [] => []
  | fuel + 1, c :: rest =>
    if key.isPrefixOf (c :: rest) then
      value ++ replaceAll key value fuel ((c :: rest).drop key.length)
    else c :: replaceAll key value fuel rest

/-- Replaces every occurrence of `key`, which is not empty, by `value`. -/
def replace (key value text : List Char) : List Char :=
  replaceAll key value text.length text

end RobotCombat.Text

namespace RobotCombat.Narration

/-- A place in a template that a value goes to. -/
inductive Slot where
  | a
  | b
  | attacker
  | target
  | damage
  | weapon
  | winner
  | hp
  deriving DecidableEq, Repr

namespace Slot

def name : Slot → String
  | .a => "a"
  | .b => "b"
  | .attacker => "attacker"
  | .target => "target"
  | .damage => "damage"
  | .weapon => "weapon"
  | .winner => "winner"
  | .hp => "hp"

/-- The slot as it stands in a text. -/
def key (s : Slot) : List Char := '\x7b' :: s.name.toList ++ ['\x7d']

end Slot

/-- A part of a template. -/
inductive Part where
  | words (s : String)
  | slot (s : Slot)
  deriving DecidableEq, Repr

/-- A line with slots. -/
abbrev Template := List Part

/-- The text of a template, its slots as they stand. -/
def Template.text (t : Template) : List Char :=
  t.flatMap fun
    | .words s => s.toList
    | .slot s => s.key

/-- A text with the slots of a list replaced, one after the other. -/
def fill (values : List (Slot × String)) (text : List Char) : List Char :=
  values.foldl (fun text v => Text.replace v.1.key v.2.toList text) text

namespace Pool

/-- The first speaker opens the match. -/
def startOpening : List Template :=
  [[.words "Welcome to the arena! ", .slot .a, .words " and ", .slot .b,
    .words " are locked in and ready to brawl!"],
   [.words "Ladies and gentlemen, tonight's main event: ", .slot .a, .words " versus ", .slot .b,
    .words "!"],
   [.words "The lights are up, the floor is swept, and ", .slot .a, .words " is staring down ",
    .slot .b, .words "!"]]

/-- The second speaker joins in. -/
def startReply : List Template :=
  [[.words "I've got a good feeling about this one, Chuck. Someone's leaving in a bucket."],
   [.words "Somebody call the scrapyard, they're going to want to be on standby."],
   [.words "I had a sandwich riding on this match. Don't let me down."]]

/-- A heavy hit. -/
def bigHit : List Template :=
  [[.slot .attacker, .words " connects with the ", .slot .weapon, .words "! ", .slot .damage,
    .words " damage on ", .slot .target, .words "!"],
   [.words "What a shot from ", .slot .attacker, .words "! ", .slot .target, .words " eats ",
    .slot .damage, .words " points of pain!"],
   [.words "BOOM! ", .slot .attacker, .words " lands a ", .slot .weapon, .words " hit for ",
    .slot .damage, .words "!"],
   [.slot .target, .words " is reeling after taking ", .slot .damage, .words " from ",
    .slot .attacker, .words "!"]]

/-- The second speaker on a heavy hit. -/
def bigHitReply : List Template :=
  [[.words "That's going to leave a mark. Several marks, actually."],
   [.words "I felt that one in my fillings, Chuck."],
   [.slot .target, .words "'s warranty does not cover that."]]

/-- A fighter in trouble. -/
def lowHp : List Template :=
  [[.slot .target, .words " is in serious trouble! Barely holding together!"],
   [.words "Sparks flying from ", .slot .target, .words "! That chassis can't take much more!"],
   [.slot .target, .words " is running on fumes out there!"]]

/-- The second speaker on a fighter in trouble. -/
def lowHpReply : List Template :=
  [[.words "I can hear the death rattle from up here, Chuck."],
   [.words "Somebody get ", .slot .target, .words " a roll of duct tape. A big one."]]

/-- A fall into a pit. -/
def pitFall : List Template :=
  [[.slot .target, .words " goes DOWN THE PIT! Gone! Just gone!"],
   [.words "Into the abyss with ", .slot .target, .words "! That's a one-way trip!"],
   [.slot .target, .words " finds the pit! That's the end of the line!"]]

/-- The second speaker on a fall. -/
def pitFallReply : List Template :=
  [[.words "Say goodbye, ", .slot .target, .words ". We hardly knew ye."],
   [.words "Nobody comes back from the pit, Chuck. Nobody."]]

/-- A hard impact on a wall. -/
def wallSlam : List Template :=
  [[.slot .target, .words " slams into the wall! ", .slot .damage, .words " damage!"],
   [.words "Right into the barrier goes ", .slot .target, .words "!"],
   [.slot .target, .words " tests the arena wall and the wall wins!"]]

/-- The second speaker on an impact. -/
def wallSlamReply : List Template :=
  [[.words "Those walls are load-bearing, ", .slot .target, .words ". Respect them."],
   [.words "The wall is undefeated tonight."]]

/-- A victory. -/
def finishWin : List Template :=
  [[.words "It's all over! ", .slot .winner, .words " takes the victory with ", .slot .hp,
    .words " HP left!"],
   [.slot .winner, .words " wins! ", .slot .hp,
    .words " HP remaining and not a scratch of doubt!"],
   [.words "And that's the match! ", .slot .winner, .words " walks away with ", .slot .hp,
    .words " HP!"]]

/-- The second speaker on a victory. -/
def finishWinReply : List Template :=
  [[.words "Dominant. Absolutely dominant. I need a cigarette."],
   [.slot .winner, .words " is going home with the trophy and the bragging rights."],
   [.words "Put that one in the highlight reel, Chuck."]]

/-- Nobody is left. -/
def finishDoubleKnockout : List Template :=
  [[.words "DOUBLE KNOCKOUT! Both machines are down! It's a draw!"],
   [.words "They took each other out! Nobody wins tonight!"]]

/-- Time is up. -/
def finishTimeUp : List Template :=
  [[.words "Time expires! Both bots still standing, and this one goes down as a draw!"],
   [.words "That's the horn! Time expires with nobody finished off. A draw!"]]

/-- Talk to fill a lull. -/
def banter : List (Speaker × String) :=
  [(.frank, "You know Chuck, I built a robot once. It mostly vacuumed."),
   (.chuck, "Let's keep our eyes on the arena, Frank."),
   (.frank, "The tension in here is thicker than hydraulic fluid."),
   (.chuck, "Both teams are playing this one very carefully."),
   (.frank, "Careful is a nice word for boring, Chuck."),
   (.chuck, "You can really see the engineering choices paying off here."),
   (.frank, "My mechanic charges less than this match is costing these teams."),
   (.frank, "It's like watching two toasters argue about bread.")]

end Pool

end RobotCombat.Narration
