/-
# RobotCombat.Json.Value — a JSON document as a tree

Members of an object keep their order and may repeat. A string token denotes a
text unless its escapes leave one half of a surrogate pair alone; such a token
is part of a document and denotes nothing.
-/
import RobotCombat.Json.Numeral

namespace RobotCombat

set_option autoImplicit false

/-- A JSON value. -/
inductive Json where
  | null
  | bool (b : Bool)
  | number (n : Json.Numeral)
  | string (s : Option String)
  | array (items : List Json)
  | object (members : List (Option String × Json))
  deriving Inhabited

namespace Json

/-- A text. -/
def text (s : String) : Json := .string (some s)

/-- A count. -/
def count (n : Nat) : Json := .number (.ofNat n)

/-- A whole number. -/
def int (n : Int) : Json := .number (.ofInt n)

/-- A 32-bit number, null if it is not finite. -/
def single (x : Float32) : Json :=
  match Numeral.ofSingle? x with
  | some n => .number n
  | none => .null

/-- A 64-bit number, null if it is not finite. -/
def double (x : Float) : Json :=
  match Numeral.ofDouble? x with
  | some n => .number n
  | none => .null

/-- An object with the given members. -/
def record (members : List (String × Json)) : Json :=
  .object (members.map fun m => (some m.1, m.2))

/-- A value or null. -/
def orNull {α : Type} (encode : α → Json) : Option α → Json
  | some a => encode a
  | none => .null

/-- The values of a list in order. -/
def list {α : Type} (encode : α → Json) (items : List α) : Json :=
  .array (items.map encode)

end Json

end RobotCombat
