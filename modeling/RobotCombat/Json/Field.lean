/-
# RobotCombat.Json.Field — reading values of known shape out of a document

A decoder gives a value or nothing. A record with named fields is written as an
object, or as an array of its fields in order.

In an object, members under other names are ignored; a field given twice, and a
member name that denotes no text, make the document unreadable. An array may
stop early only at fields that have a default. An optional field without a
default may be missing from an object, not from an array.
-/
import RobotCombat.Json.Value

namespace RobotCombat.Json

set_option autoImplicit false

/-- A text. -/
def asText? : Json → Option String
  | .string s => s
  | _ => none

/-- A truth value. -/
def asBool? : Json → Option Bool
  | .bool b => some b
  | _ => none

/-- A 32-bit number. -/
def asSingle? : Json → Option Float32
  | .number n => n.toSingle?
  | _ => none

/-- A 64-bit number. -/
def asDouble? : Json → Option Float
  | .number n => n.toDouble?
  | _ => none

/-- A count below a limit. -/
def asCount? (limit : Nat) : Json → Option Nat
  | .number n => n.toCount? limit
  | _ => none

/-- A list of values of one shape. -/
def asList? {α : Type} (decode : Json → Option α) : Json → Option (List α)
  | .array items => items.mapM decode
  | _ => none

/-- A value, or null for none. -/
def asOption? {α : Type} (decode : Json → Option α) : Json → Option (Option α)
  | .null => some none
  | j => (decode j).map some

/-- The members of an object whose names all denote texts. -/
def asMembers? : Json → Option (List (String × Json))
  | .object members => members.mapM fun (key, value) => key.map fun key => (key, value)
  | _ => none

/-- A choice without content: its name, or an object with the name over null. -/
def asChoice? : Json → Option String
  | .string s => s
  | .object [(key, .null)] => key
  | _ => none

/-- A choice with content: an object with its name as the only member. -/
def asTagged? : Json → Option (String × Json)
  | .object [(some key, value)] => some (key, value)
  | _ => none

/-- The fields found in a document, and whether they were given by position. -/
structure Record where
  positional : Bool
  fields : List (String × Json)

namespace Record

/-- Whether no name stands twice. -/
def distinct : List (String × Json) → Bool
  | [] => true
  | (name, _) :: rest => !rest.any (fun f => f.1 = name) && distinct rest

/-- Reads a record with the given field names. -/
def read? (names : List String) : Json → Option Record
  | .array items =>
    if items.length ≤ names.length then some ⟨true, names.zip items⟩ else none
  | j =>
    match asMembers? j with
    | none => none
    | some members =>
      let known := members.filter fun m => names.contains m.1
      if distinct known then some ⟨false, known⟩ else none

/-- The value given for a field. -/
def find? (r : Record) (name : String) : Option Json :=
  r.fields.lookup name

/-- A field that must be given. -/
def required {α : Type} (r : Record) (name : String) (decode : Json → Option α) : Option α :=
  match r.find? name with
  | some j => decode j
  | none => none

/-- A field with a value to use where it is missing. -/
def withDefault {α : Type} (r : Record) (name : String) (decode : Json → Option α)
    (default : α) : Option α :=
  match r.find? name with
  | some j => decode j
  | none => some default

/-- An optional field without a default. -/
def optional {α : Type} (r : Record) (name : String) (decode : Json → Option α) :
    Option (Option α) :=
  match r.find? name with
  | some j => asOption? decode j
  | none => if r.positional then none else some none

end Record

/-- The object members with every name once, at its first place and with its last
value; lists and members below likewise. -/
def mergeMember (members : List (Option String × Json)) (key : Option String) (value : Json) :
    List (Option String × Json) :=
  if members.any (fun m => m.1 = key) then
    members.map fun m => if m.1 = key then (key, value) else m
  else members ++ [(key, value)]

mutual

/-- The document in which the last of several members of one name counts. -/
def lastWins : Json → Json
  | .array items => .array (lastWinsItems items)
  | .object members => .object (lastWinsMembers [] members)
  | j => j

/-- `lastWins` for every item. -/
def lastWinsItems : List Json → List Json
  | [] => []
  | item :: items => lastWins item :: lastWinsItems items

/-- `lastWins` for every member, merged into those before. -/
def lastWinsMembers (before : List (Option String × Json)) :
    List (Option String × Json) → List (Option String × Json)
  | [] => before
  | (key, value) :: members => lastWinsMembers (mergeMember before key (lastWins value)) members

end

end RobotCombat.Json
