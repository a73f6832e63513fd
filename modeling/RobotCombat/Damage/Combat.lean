/-
# RobotCombat.Damage.Combat — fighters that hurt each other

When two living fighters come into contact each strikes the other: the damage of
its weapons and a momentum term, summed, through armor once.

| kind | ready | cooling down |
|------|-------|--------------|
| flipper | half, a kick, cooldown | nothing |
| hammer | `1 + speed / 10` times, cooldown | nothing |
| saw | full, cooldown | three tenths |
| wedge | three tenths | three tenths |
| spinner | nothing | nothing |
| others | full, cooldown | nothing |

On every tick of contact, the first included, each spinner of a living fighter
deals a tenth of its base damage. Who is alive and what is ready is judged by the
states at the start of the tick, so neither side gains from being first.
-/
import RobotCombat.Damage.Ruling

namespace RobotCombat

set_option autoImplicit false

open Number

/-- The push of a flipper away from the attacker, per unit of drive force. -/
def flipperKnockback : Float32 := 58

/-- The push of a flipper toward the top of the arena, per unit of drive force. -/
def flipperLift : Float32 := 35

namespace Weapon

/-- What a weapon adds to a strike at a contact speed. -/
def contribution (w : Weapon) (ready : Bool) (speed : Float32) : Float32 :=
  match w.kind with
  | .spinner => 0
  | .wedge => w.baseDamage * 0.3
  | .saw => if ready then w.baseDamage else w.baseDamage * 0.3
  | .flipper => if ready then w.baseDamage * 0.5 else 0
  | .hammer => if ready then w.baseDamage * (1 + speed * 0.1) else 0
  | .flamethrower | .emp | .grapple | .drill | .plasma => if ready then w.baseDamage else 0

/-- Whether a strike starts the cooldown of the weapon when it is ready. -/
def isTriggered (w : Weapon) : Bool :=
  match w.kind with
  | .spinner | .wedge => false
  | _ => true

end Weapon

namespace Combat

/-- The summed damage of weapons so far, and the first cause among them. -/
structure Blow where
  raw : Float32
  cause : Option Cause
  deriving DecidableEq, Repr

/-- Adds a weapon that contributes a positive amount. -/
def Blow.add (b : Blow) (w : Weapon) (amount : Float32) : Blow :=
  if 0 < amount then ⟨b.raw + amount, b.cause.or (some (.weapon w.kind))⟩ else b

/-- The blow of weapons in slot order, the first one in the given slot. -/
def blow (attacker : FighterState) (speed : Float32) (slot : Nat) (b : Blow) :
    List Mounted → Blow
  | [] => b
  | m :: weapons =>
    blow attacker speed (slot + 1)
      (b.add m.weapon (m.weapon.contribution (attacker.isReady slot) speed)) weapons

/-- The slots that a strike triggers, with their cooldowns. -/
def triggered (attacker : FighterState) (slot : Nat) : List Mounted → List (Nat × Float32)
  | [] => []
  | m :: weapons =>
    if attacker.isReady slot && m.weapon.isTriggered then
      (slot, m.weapon.cooldownMs) :: triggered attacker (slot + 1) weapons
    else triggered attacker (slot + 1) weapons

/-- The push of a flipper: along the line to the target and up. -/
def kick (scene : Scene) (attacker target : FighterState) : Vector2 :=
  let line := (target.position - attacker.position).unit?.getD .right
  (line * flipperKnockback - Vector2.down * flipperLift) * scene.forcePerSpeed

/-- The pushes of a strike: one for each flipper that is ready. -/
def kicks (scene : Scene) (attacker target : FighterState) (place slot : Nat) :
    List Mounted → List (Nat × Vector2)
  | [] => []
  | m :: weapons =>
    if attacker.isReady slot && m.weapon.kind = .flipper then
      (place, kick scene attacker target) :: kicks scene attacker target place (slot + 1) weapons
    else kicks scene attacker target place (slot + 1) weapons

/-- Damage by weight and speed. -/
def momentum (speed : Float32) (attacker target : Stats) : Float32 :=
  speed * (attacker.weight / target.weight) * 0.5

/-- One fighter strikes another. -/
def strike (scene : Scene) (current : List FighterState) (attacker target : Nat)
    (speed : Float32) (r : Ruling) : Ruling :=
  match current[attacker]?, current[target]?, scene.roster.get? attacker,
      scene.roster.get? target with
  | some me, some them, some entrant, some opponent =>
    if me.isAlive && them.isAlive then
      let weapons := entrant.loadout.weapons
      let b := blow me speed 0 ⟨0, none⟩ weapons
      let r := (triggered me 0 weapons).foldl
        (fun r t => r.modify attacker fun s => s.trigger t.1 t.2) r
      let r := { r with pushes := r.pushes ++ kicks scene me them target 0 weapons }
      r.hit scene (some attacker) target (b.raw + momentum speed entrant.stats opponent.stats)
        (b.cause.getD .collision)
    else r
  | _, _, _, _ => r

/-- One fighter's spinners grind another. -/
def grind (scene : Scene) (current : List FighterState) (attacker target : Nat) (r : Ruling) :
    Ruling :=
  match current[attacker]?, scene.roster.get? attacker with
  | some me, some entrant =>
    if me.isAlive then
      (entrant.loadout.weapons.filter fun m => m.weapon.kind.isContinuous).foldl
        (fun r m => r.hit scene (some attacker) target (m.weapon.baseDamage * 0.1)
          (.weapon m.weapon.kind)) r
    else r
  | _, _ => r

/-- The effects of one contact. Only fighters are dealt with here. -/
def resolveContact (scene : Scene) (current : List FighterState) (r : Ruling) (c : Contact) :
    Ruling :=
  match c.other with
  | .body other =>
    let inContact := fun s : Status => { s with inContact := true }
    let r := (r.mark c.body inContact).mark other inContact
    let r :=
      if c.isNew then
        r |> strike scene current c.body other c.speed |> strike scene current other c.body c.speed
      else r
    r |> grind scene current c.body other |> grind scene current other c.body
  | _ => r

/-- The effects of the contacts between fighters, in order. -/
def resolve (scene : Scene) (current : List FighterState) (contacts : List Contact) (r : Ruling) :
    Ruling :=
  contacts.foldl (resolveContact scene current) r

end Combat

end RobotCombat
