/-
# RobotCombat.Catalog.Stock — the parts and arenas that come with the game
-/
import RobotCombat.Catalog.Basic

namespace RobotCombat.Catalog

set_option autoImplicit false

/-- A pit by center and size. -/
def pit (x y width height : Float32) : Hazard :=
  ⟨.pit, ⟨x, y⟩, ⟨width, height⟩, none⟩

/-- A spike zone by center, size and rating. -/
def spikes (x y width height damage : Float32) : Hazard :=
  ⟨.spike, ⟨x, y⟩, ⟨width, height⟩, some damage⟩

def stockChassis : List (String × Chassis) :=
  [("scout", ⟨60, 8, 50, 25, 1⟩),
   ("brawler", ⟨100, 5, 100, 35, 2⟩),
   ("tank", ⟨150, 3, 180, 45, 2⟩),
   ("phantom", ⟨40, 12, 30, 20, 1⟩),
   ("juggernaut", ⟨200, 2, 250, 55, 2⟩),
   ("striker", ⟨120, 6, 120, 40, 2⟩)]

def stockWeapons : List (String × Weapon) :=
  [("miniSpinner", ⟨.spinner, 8, 15, 100⟩),
   ("deathBlossom", ⟨.spinner, 15, 30, 100⟩),
   ("basicFlipper", ⟨.flipper, 5, 20, 2000⟩),
   ("skyLauncher", ⟨.flipper, 8, 35, 2500⟩),
   ("spikeHammer", ⟨.hammer, 20, 25, 3000⟩),
   ("mjolnir", ⟨.hammer, 35, 45, 4000⟩),
   ("buzzSaw", ⟨.saw, 12, 20, 500⟩),
   ("circularDoom", ⟨.saw, 25, 40, 800⟩),
   ("basicWedge", ⟨.wedge, 3, 10, 0⟩),
   ("razorWedge", ⟨.wedge, 8, 15, 0⟩),
   ("miniTorch", ⟨.flamethrower, 6, 18, 200⟩),
   ("inferno", ⟨.flamethrower, 12, 35, 150⟩),
   ("shockPulse", ⟨.emp, 3, 22, 5000⟩),
   ("blackout", ⟨.emp, 5, 40, 8000⟩),
   ("hookShot", ⟨.grapple, 4, 20, 3000⟩),
   ("titanGrip", ⟨.grapple, 8, 45, 4000⟩),
   ("combatDrill", ⟨.drill, 18, 28, 1500⟩),
   ("coreBreaker", ⟨.drill, 30, 50, 2000⟩),
   ("plasmaBlaster", ⟨.plasma, 22, 25, 2500⟩),
   ("novaCore", ⟨.plasma, 40, 55, 4000⟩)]

def stockArmor : List (String × Armor) :=
  [("basicPlating", ⟨0.10, 15⟩),
   ("reinforcedSteel", ⟨0.18, 25⟩),
   ("titaniumShell", ⟨0.15, 12⟩),
   ("spikedArmor", ⟨0.12, 20⟩),
   ("compositeArmor", ⟨0.25, 35⟩),
   ("ablativePlates", ⟨0.22, 28⟩),
   ("reactiveArmor", ⟨0.28, 40⟩),
   ("nanoweaveArmor", ⟨0.32, 30⟩),
   ("fortressPlating", ⟨0.40, 60⟩),
   ("phantomShield", ⟨0.35, 20⟩)]

def stockArenas : List (String × Arena) :=
  [("basicPit", ⟨800, 600, 20, []⟩),
   ("warzone", ⟨900, 700, 25, [pit 450 350 100 100]⟩),
   ("thunderdome", ⟨1000, 800, 30,
      [pit 200 200 60 60,
       pit 800 200 60 60,
       pit 200 600 60 60,
       pit 800 600 60 60,
       spikes 500 400 100 100 5]⟩),
   ("gauntlet", ⟨1200, 500, 25,
      [spikes 300 100 150 40 3,
       spikes 600 100 150 40 3,
       spikes 900 100 150 40 3,
       spikes 300 400 150 40 3,
       spikes 600 400 150 40 3,
       spikes 900 400 150 40 3,
       pit 600 250 80 80]⟩),
   ("inferno", ⟨900, 900, 30,
      [spikes 150 150 80 80 4,
       spikes 450 100 100 60 4,
       spikes 750 150 80 80 4,
       spikes 100 450 60 100 4,
       spikes 800 450 60 100 4,
       spikes 150 750 80 80 4,
       spikes 450 800 100 60 4,
       spikes 750 750 80 80 4]⟩),
   ("abyss", ⟨1000, 800, 25,
      [pit 250 200 70 70,
       pit 500 200 70 70,
       pit 750 200 70 70,
       pit 375 400 70 70,
       pit 625 400 70 70,
       pit 250 600 70 70,
       pit 500 600 70 70,
       pit 750 600 70 70]⟩),
   ("colosseum", ⟨1200, 900, 35,
      [pit 150 150 80 80,
       pit 1050 150 80 80,
       pit 150 750 80 80,
       pit 1050 750 80 80,
       spikes 550 400 60 60 5,
       spikes 650 400 60 60 5,
       spikes 550 500 60 60 5,
       spikes 650 500 60 60 5,
       pit 600 150 100 60,
       pit 600 750 100 60]⟩),
   ("cage", ⟨500, 500, 20, [spikes 250 250 50 50 6]⟩),
   ("oblivion", ⟨1100, 850, 30,
      [pit 200 200 50 50,
       pit 550 120 50 50,
       pit 900 200 50 50,
       pit 200 650 50 50,
       pit 550 730 50 50,
       pit 900 650 50 50,
       spikes 550 425 120 40 4,
       spikes 550 425 40 120 4,
       spikes 150 425 40 150 3,
       spikes 950 425 40 150 3]⟩)]

/-- The stock catalog. -/
def stock : Catalog :=
  ⟨.ofList stockChassis, .ofList stockWeapons, .ofList stockArmor, .ofList stockArenas⟩

end RobotCombat.Catalog
