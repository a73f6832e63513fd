/-
# RobotCombat.Proofs.Damage.Soundness — a ruling keeps every fighter's record straight

Among healthy entrants every change of a ruling keeps the states in roster order
and sound, and damage always finds a range of hit points to act in. By induction
over the changes so does the ruling on a tick: `ofContacts_sound`.
-/
import RobotCombat.Proofs.Damage.Change
import RobotCombat.Proofs.Fighter.Entered

namespace RobotCombat

set_option autoImplicit false

open Number

namespace Ruling

variable {scene : Scene} {r r' : Ruling}

theorem Change.sound (healthy : scene.roster.Healthy) (change : Change scene r r')
    (sound : scene.roster.Sound r.states) : scene.roster.Sound r'.states := by
  cases change with
  | touch place => exact sound.modify place fun good => good.congr rfl rfl rfl rfl rfl
  | prick place => exact sound.modify place fun good => good.congr rfl rfl rfl rfl rfl
  | trigger place slot ms => exact sound.modify place fun good => good.trigger slot ms
  | kick pushes => exact sound
  | hurt attacker cause entered lookup alive positive range =>
      refine sound.set ?_ fun _ _ good => good
      intro e entered
      have good := sound.holds entered lookup
      exact good.struck (healthy entered) alive (ne_nan_of_lt_right positive)
  | unscored lookup noRange => exact sound
  | fall lookup alive =>
      refine sound.set ?_ fun _ _ good => good
      intro e entered
      exact (sound.holds entered lookup).fallen (healthy entered)

/-- Damage to a healthy entrant is never without an answer. -/
theorem Change.scorable (healthy : scene.roster.Healthy) (change : Change scene r r')
    (sound : scene.roster.Sound r.states) : r'.unscorable = r.unscorable := by
  cases change with
  | unscored lookup noRange =>
      obtain ⟨e, entered, good⟩ := sound.entrant lookup
      exact absurd (le_of_less (good.positive_maximum (healthy entered))) noRange
  | _ => rfl

/-- The ruling on a tick leaves every fighter sound, and all damage scored. -/
theorem ofContacts_sound (healthy : scene.roster.Healthy) (current : List FighterState)
    {next : List FighterState} (contacts : List Contact) (sound : scene.roster.Sound next) :
    scene.roster.Sound (ofContacts scene current next contacts).states ∧
      (ofContacts scene current next contacts).unscorable = false := by
  refine (ofContacts_reaches scene current next contacts).invariant
    (P := fun r => scene.roster.Sound r.states ∧ r.unscorable = false) ?_ ⟨sound, rfl⟩
  intro a b change kept
  exact ⟨change.sound healthy kept.1, (change.scorable healthy kept.1).trans kept.2⟩

end Ruling

end RobotCombat
