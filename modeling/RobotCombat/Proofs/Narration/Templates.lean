/-
# RobotCombat.Proofs.Narration.Templates — what becomes of the slots of a template

Slots are replaced one after the other, in the order of the values. In a template with words
between its slots no key reaches over the border of two parts, so that the text of each slot
is dealt with by itself:

* `replace_render`: one replacement, slot by slot;
* `fill_text`: after all of them a slot holds its value with the later keys in it replaced,
  which is `filled`;
* `filled_of_verbatim`: if no value has a later key in it, that is what replacing all slots
  at once gives;
* `pools_suit`: the templates that the narrators use have words between their slots.
-/
import Mathlib.Data.List.Infix
import RobotCombat.Narration.Pool
import RobotCombat.Proofs.Text.Replace

namespace RobotCombat.Narration

set_option autoImplicit false

open Text (replace Apart)

/-! ## Keys -/

namespace Slot

variable {s : Slot}

theorem key_ne_nil (s : Slot) : s.key ≠ [] := by simp [key]

theorem isLower_of_mem_name {c : Char} (member : c ∈ s.name.toList) : c.isLower = true := by
  have all : s.name.toList.all Char.isLower = true := by cases s <;> decide
  exact List.all_eq_true.mp all c member

/-- A key starts with a brace and ends with one, and has letters between them. -/
theorem mem_key {c : Char} (member : c ∈ s.key) :
    c = '\x7b' ∨ c = '\x7d' ∨ c.isLower = true := by
  simp only [key, List.cons_append, List.mem_cons, List.mem_append, List.not_mem_nil,
    or_false] at member
  rcases member with open_ | name | close_
  · exact .inl open_
  · exact .inr (.inr (isLower_of_mem_name name))
  · exact .inr (.inl close_)

theorem open_mem_of_front {p q : List Char} (whole : s.key = p ++ q) (nonempty : p ≠ []) :
    '\x7b' ∈ p := by
  obtain ⟨c, p, rfl⟩ := List.exists_cons_of_ne_nil nonempty
  obtain rfl : '\x7b' = c := (List.cons.inj whole).1
  exact List.mem_cons_self

theorem close_mem_of_back {p q : List Char} (whole : s.key = p ++ q) (nonempty : q ≠ []) :
    '\x7d' ∈ q := by
  obtain ⟨q, c, rfl⟩ := (List.eq_nil_or_concat q).resolve_left nonempty
  rw [List.concat_eq_append] at whole ⊢
  have ends : s.key.getLast? = some c := by rw [whole]; simp
  have brace : s.key.getLast? = some '\x7d' :=
    List.getLast?_concat (l := '\x7b' :: s.name.toList)
  obtain rfl : '\x7d' = c := Option.some.inj (brace.symm.trans ends)
  simp

/-- No key is found in another one. -/
theorem key_absent {s' : Slot} (other : s' ≠ s) : ¬ s'.key <:+: s.key := by
  cases s <;> cases s' <;> first | exact absurd rfl other | decide

end Slot

/-! ## Templates with words between their slots -/

/-- Words without a brace, and more than small letters. -/
def isPlain (words : String) : Bool :=
  words.toList.all (fun c => c ≠ '\x7b' && c ≠ '\x7d') && words.toList.any (fun c => !c.isLower)

theorem isPlain_iff {words : String} : isPlain words = true ↔
    (∀ c ∈ words.toList, c ≠ '\x7b' ∧ c ≠ '\x7d') ∧ ∃ c ∈ words.toList, c.isLower = false := by
  simp [isPlain]

namespace Template

/-- Whether a template does not start with a slot. -/
def startsPlain : Template → Bool
  | [] => true
  | .words w :: _ => isPlain w
  | .slot _ :: _ => false

/-- Whether there are plain words between the slots of a template. -/
def isSpaced : Template → Bool
  | [] => true
  | .words w :: t => isPlain w && isSpaced t
  | .slot _ :: t => startsPlain t && isSpaced t

/-- The text of a template with a text in each slot. -/
def render (t : Template) (f : Slot → List Char) : List Char :=
  t.flatMap fun
    | .words s => s.toList
    | .slot s => f s

/-- The slots of a template. -/
def slots (t : Template) : List Slot :=
  t.filterMap fun
    | .words _ => none
    | .slot s => some s

theorem text_eq_render (t : Template) : t.text = render t Slot.key := rfl

theorem render_words (w : String) (t : Template) (f : Slot → List Char) :
    render (.words w :: t) f = w.toList ++ render t f := rfl

theorem render_slot (s : Slot) (t : Template) (f : Slot → List Char) :
    render (.slot s :: t) f = f s ++ render t f := rfl

end Template

section Border

variable {s : Slot} {words : String}

/-- No key begins in plain words. -/
theorem apart_after_words (plain : isPlain words = true) (back : List Char) :
    Apart s.key words.toList back := by
  intro p q whole nonempty _ ends
  have brace := ends.subset (Slot.open_mem_of_front whole nonempty)
  exact absurd rfl ((isPlain_iff.mp plain).1 _ brace).1

/-- No key ends in plain words, and none goes on behind them. -/
theorem apart_before_words (plain : isPlain words = true) (front back : List Char) :
    Apart s.key front (words.toList ++ back) := by
  obtain ⟨noBrace, c, member, other⟩ := isPlain_iff.mp plain
  rintro p q whole - nonempty - ⟨rest, begins⟩
  rcases List.append_eq_append_iff.mp begins with ⟨x, within, -⟩ | ⟨x, across, -⟩
  · have brace : '\x7d' ∈ words.toList := by
      rw [within]
      exact List.mem_append_left _ (Slot.close_mem_of_back whole nonempty)
    exact absurd rfl (noBrace _ brace).2
  · have inKey : c ∈ s.key := by
      rw [whole, across]
      simp [member]
    rcases Slot.mem_key inKey with open_ | close_ | letter
    · exact absurd open_ (noBrace c member).1
    · exact absurd close_ (noBrace c member).2
    · rw [other] at letter
      cases letter

theorem apart_after_slot {t : Template} (plain : t.startsPlain = true) (front : List Char)
    (f : Slot → List Char) : Apart s.key front (t.render f) := by
  match t with
  | [] => exact fun p q _ _ nonempty _ nothing => nonempty (List.prefix_nil.mp nothing)
  | .words w :: t => exact apart_before_words plain front (Template.render t f)
  | .slot s' :: t => cases plain

theorem key_absent_words (plain : isPlain words = true) : ¬ s.key <:+: words.toList := by
  intro found
  have brace : '\x7b' ∈ words.toList :=
    found.subset (Slot.open_mem_of_front (List.append_nil _).symm s.key_ne_nil)
  exact absurd rfl ((isPlain_iff.mp plain).1 _ brace).1

end Border

/-- One replacement goes slot by slot. -/
theorem replace_render (s : Slot) (value : List Char) (f : Slot → List Char) :
    ∀ {t : Template}, t.isSpaced = true →
      replace s.key value (Template.render t f) =
        Template.render t fun s' => replace s.key value (f s')
  | [], _ => rfl
  | .words w :: t, spaced => by
      obtain ⟨plain, rest⟩ := (Bool.and_eq_true _ _).mp spaced
      rw [Template.render_words, Template.render_words,
        Text.replace_append s.key_ne_nil value (apart_after_words plain _),
        Text.replace_of_absent s.key_ne_nil value (key_absent_words plain),
        replace_render s value f rest]
  | .slot s' :: t, spaced => by
      obtain ⟨plain, rest⟩ := (Bool.and_eq_true _ _).mp spaced
      rw [Template.render_slot, Template.render_slot,
        Text.replace_append s.key_ne_nil value (apart_after_slot plain _ f),
        replace_render s value f rest]

/-! ## Values -/

/-- What a slot holds after all replacements: its value, with the keys of later slots in it
replaced in turn. Without a value it stands as it is. -/
def filled : List (Slot × String) → Slot → List Char
  | [], s => s.key
  | v :: values, s => if v.1 = s then fill values v.2.toList else filled values s

/-- The value of a slot, or its key if it has none. -/
def valueIn (values : List (Slot × String)) (s : Slot) : List Char :=
  match values.lookup s with
  | some value => value.toList
  | none => s.key

/-- No value has the key of a later slot in it. -/
def Verbatim (values : List (Slot × String)) : Prop :=
  values.Pairwise fun v later => ¬ later.1.key <:+: v.2.toList

theorem fill_cons (v : Slot × String) (values : List (Slot × String)) (text : List Char) :
    fill (v :: values) text = fill values (replace v.1.key v.2.toList text) := rfl

theorem fill_render {t : Template} (spaced : t.isSpaced = true) (values : List (Slot × String))
    (f : Slot → List Char) : fill values (t.render f) = t.render fun s => fill values (f s) := by
  induction values generalizing f with
  | nil => rfl
  | cons v values ih =>
      rw [fill_cons, replace_render v.1 v.2.toList f spaced, ih]
      rfl

theorem fill_key (values : List (Slot × String)) (s : Slot) :
    fill values s.key = filled values s := by
  induction values with
  | nil => rfl
  | cons v values ih =>
      rw [fill_cons, filled]
      by_cases own : v.1 = s
      · rw [if_pos own, own, Text.replace_self s.key_ne_nil]
      · rw [if_neg own, Text.replace_of_absent v.1.key_ne_nil _ (Slot.key_absent own), ih]

/-- A filled template has in each slot what becomes of it alone. -/
theorem fill_text {t : Template} (spaced : t.isSpaced = true) (values : List (Slot × String)) :
    fill values t.text = t.render (filled values) := by
  rw [Template.text_eq_render, fill_render spaced]
  exact congrArg t.render (funext (fill_key values))

theorem fill_of_absent {values : List (Slot × String)} {text : List Char}
    (absent : ∀ v ∈ values, ¬ v.1.key <:+: text) : fill values text = text := by
  induction values with
  | nil => rfl
  | cons v values ih =>
      rw [List.forall_mem_cons] at absent
      rw [fill_cons, Text.replace_of_absent v.1.key_ne_nil _ absent.1, ih absent.2]

/-- Values without later keys are put in as they are. -/
theorem filled_of_verbatim {values : List (Slot × String)} (verbatim : Verbatim values) :
    filled values = valueIn values := by
  funext s
  induction values with
  | nil => rfl
  | cons v values ih =>
      obtain ⟨slot, value⟩ := v
      obtain ⟨absent, later⟩ := List.pairwise_cons.mp verbatim
      rw [filled, valueIn, List.lookup_cons]
      by_cases own : slot = s
      · subst own
        rw [if_pos rfl, beq_self_eq_true]
        exact fill_of_absent absent
      · have other : (s == slot) = false := beq_false_of_ne (Ne.symm own)
        rw [if_neg own, other, ih later]
        rfl

/-! ## Pools -/

/-- Whether the templates of a pool have plain words between their slots, and only slots of a
list. -/
def Suits (pool : List Template) (slots : List Slot) : Bool :=
  pool.all fun t => t.isSpaced && t.slots.all (· ∈ slots)

theorem suits_iff {pool : List Template} {slots : List Slot} : Suits pool slots = true ↔
    ∀ t ∈ pool, t.isSpaced = true ∧ ∀ s ∈ t.slots, s ∈ slots := by
  simp [Suits]

/-- The pools, each with the slots that it is given values for. -/
theorem pools_suit :
    (Suits Pool.startOpening [.a, .b] = true ∧ Suits Pool.startReply [.a, .b] = true) ∧
    (∀ pool ∈ [Pool.bigHit, Pool.bigHitReply, Pool.wallSlam, Pool.wallSlamReply, Pool.pitFall,
      Pool.pitFallReply], Suits pool [.attacker, .target, .damage, .weapon] = true) ∧
    (Suits Pool.lowHp [.target] = true ∧ Suits Pool.lowHpReply [.target] = true) ∧
    (Suits Pool.finishWin [.winner, .hp] = true ∧
      Suits Pool.finishWinReply [.winner, .hp] = true) ∧
    Suits Pool.finishTimeUp [] = true ∧ Suits Pool.finishDoubleKnockout [] = true := by
  decide +kernel

end RobotCombat.Narration
