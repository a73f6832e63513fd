/-
# RobotCombat.Proofs.Exchange — what is written is read

Everything that is exchanged as text comes back from it: the record of a match, a build, a
configuration, an arena, a script and a catalog. The condition is on numbers alone: each
floating number must be the one that its own text is read as, and each count must fit its
field. Two decoders do more than decode: aggression is brought between 0 and 100, and a
catalog with an entry that cannot fight is refused. So a build comes back if its
aggression lies there already, and a catalog if all its entries can fight.
-/
import RobotCombat.Proofs.Match.Exchange
import RobotCombat.Proofs.Script.Exchange

namespace RobotCombat

set_option autoImplicit false

open Json (Recovers compact pretty recovers_of_decoded)

/-- Decoding undoes encoding. -/
theorem decoding_undoes_encoding :
    (∀ m : MatchResult, m.Portable → Recovers MatchResult.toJson MatchResult.ofJson? m) ∧
    (∀ b : Build, b.Portable →
      (∀ t, b.strategy = .preset t → 0 ≤ t.aggression ∧ t.aggression ≤ 100) →
        Recovers Build.toJson Build.ofJson? b) ∧
    (∀ c : MatchConfig, c.Portable → Recovers MatchConfig.toJson MatchConfig.ofJson? c) ∧
    (∀ a : Arena, a.Portable → Recovers Arena.toJson Arena.ofJson? a) ∧
    (∀ p : Script.Program, p.Portable →
      Recovers Script.Program.toJson Script.Program.ofJson? p) ∧
    ∀ c : Catalog, c.Portable → c.check? = none →
      Catalog.load (compact c.toJson) = .ok c ∧ Catalog.load (pretty c.toJson) = .ok c := by
  refine ⟨fun m portable => ?_, fun b portable range => ?_, fun c portable => ?_,
    fun a portable => ?_, fun p portable => ?_, fun c portable valid => ?_⟩
  · exact recovers_of_decoded m.wellFormed_toJson (MatchResult.ofJson?_toJson portable)
  · exact recovers_of_decoded b.wellFormed_toJson (Build.ofJson?_toJson portable range)
  · exact recovers_of_decoded c.wellFormed_toJson (MatchConfig.ofJson?_toJson portable)
  · exact recovers_of_decoded a.wellFormed_toJson (Arena.ofJson?_toJson portable)
  · exact recovers_of_decoded p.wellFormed_toJson (Script.Program.ofJson?_toJson portable)
  · exact Catalog.load_toJson portable valid

/-! ### Values with every kind of field -/

/-- An arena with a hazard that has a rating and one that has none. -/
def pocked : Arena :=
  ⟨800, 600, 20.5, [⟨.spike, ⟨100.1, -0.0⟩, ⟨50, 1e-7⟩, some 0.3⟩, ⟨.pit, ⟨400, 300⟩, ⟨60, 60⟩, none⟩]⟩

/-- A catalog with two chassis, out of order, and an id that has to be escaped. -/
def furnished : Catalog :=
  { chassis := .ofList [("brawler", .plain), ("anvil", ⟨150.25, 2.7, 333.3, 40, 3⟩)]
    weapons := .ofList [("fork \"é\"", ⟨.flipper, 12.6, 1e20, 0⟩)]
    armor := .ofList [("plate", ⟨0.1, 16777216⟩)]
    arenas := .ofList [("pocked", pocked)] }

/-- A build with two behaviors and one weapon mounted twice. -/
def rammer : Build :=
  ⟨"a", "", "anvil", ["fork", "fork"], some "plate", "#f00", .preset ⟨.ram, some .flanker, 99.9, 0.1⟩⟩

/-- A script that compares with a number and with a text. -/
def wary : Script.Program :=
  ⟨[.whenever [⟨.myHpPercent, .less, .number 0.3⟩, ⟨.enemyIsSpinning, .unequal, .text ['n', 'o']⟩]
      .retreat 2,
    .always .ram 5]⟩

/-- A record with a frame, in which a fighter has marks with and without a name. -/
def spiked : MatchResult :=
  { winner := some "a"
    duration := 16.666666
    frameCount := 1
    finalStates := [⟨"a", 99, 100, true, ⟨0.1, 0.2⟩, "ram"⟩]
    damageLog :=
      [⟨none, "b", 3.4e38, .spikes, 16.666666⟩, ⟨some "a", "b", 0.7, .weapon .emp, 16.666666⟩]
    commentary := [⟨16, .pitFall, "down\n\x01", .both, 10⟩]
    timedOut := false
    frames :=
      [⟨1, 16.666666,
        [⟨"b", ⟨1, 2⟩, .zero, -3.1, 0, 100, Status.ofByte 149, [0.1], "", some 7⟩], []⟩] }

theorem one_of_each_comes_back :
    (spiked.Portable ∧ Recovers MatchResult.toJson MatchResult.ofJson? spiked) ∧
    (rammer.Portable ∧ Recovers Build.toJson Build.ofJson? rammer) ∧
    (MatchConfig.usual.Portable ∧
      Recovers MatchConfig.toJson MatchConfig.ofJson? MatchConfig.usual) ∧
    (pocked.Portable ∧ Recovers Arena.toJson Arena.ofJson? pocked) ∧
    (wary.Portable ∧ Recovers Script.Program.toJson Script.Program.ofJson? wary) ∧
    furnished.Portable ∧ furnished.check? = none ∧
      Catalog.load (compact furnished.toJson) = .ok furnished := by
  obtain ⟨result, build, config, arena, program, catalog⟩ := decoding_undoes_encoding
  have resultFits : spiked.Portable := by decide +kernel
  have buildFits : rammer.Portable := by decide +kernel
  have inRange : ∀ t, rammer.strategy = .preset t → 0 ≤ t.aggression ∧ t.aggression ≤ 100 := by
    rintro _ ⟨⟩
    decide
  have configFits : MatchConfig.usual.Portable := by decide +kernel
  have arenaFits : pocked.Portable := by decide +kernel
  have programFits : wary.Portable := by decide +kernel
  have catalogFits : furnished.Portable := by decide +kernel
  have valid : furnished.check? = none := by decide +kernel
  exact ⟨⟨resultFits, result spiked resultFits⟩, ⟨buildFits, build rammer buildFits inRange⟩,
    ⟨configFits, config .usual configFits⟩, ⟨arenaFits, arena pocked arenaFits⟩,
    ⟨programFits, program wary programFits⟩, catalogFits, valid,
    (catalog furnished catalogFits valid).1⟩

end RobotCombat
