/-
# RobotCombat.Narration.Settings — how talkative the narrators are
-/

namespace RobotCombat

set_option autoImplicit false

/-- Thresholds, windows and chances of the narration. Times are in
milliseconds. -/
structure NarrationSettings where
  bigHitThreshold : Float32
  bigHitWindowMs : Float32
  bigHitFollowUp : Float
  wallSlamThreshold : Float32
  wallSlamWindowMs : Float32
  wallSlamFollowUp : Float
  banterLullMs : Float32
  banterEarliestMs : Float32
  banterChance : Float
  banterRollIntervalMs : Float32
  banterCap : Nat
  deriving DecidableEq, Repr

namespace NarrationSettings

/-- Sparse talk, for a match that is played back. -/
def broadcast : NarrationSettings :=
  { bigHitThreshold := 12
    bigHitWindowMs := 2500
    bigHitFollowUp := 0.6
    wallSlamThreshold := 8
    wallSlamWindowMs := 3000
    wallSlamFollowUp := 0.5
    banterLullMs := 4000
    banterEarliestMs := 5000
    banterChance := 0.0003
    banterRollIntervalMs := 0
    banterCap := 3 }

/-- Lively talk, for a match that is watched as it runs. -/
def live : NarrationSettings :=
  { bigHitThreshold := 8
    bigHitWindowMs := 2000
    bigHitFollowUp := 1
    wallSlamThreshold := 0
    wallSlamWindowMs := 3000
    wallSlamFollowUp := 1
    banterLullMs := 10000
    banterEarliestMs := 5000
    banterChance := 0.3
    banterRollIntervalMs := 10000
    banterCap := 3 }

end NarrationSettings

end RobotCombat
