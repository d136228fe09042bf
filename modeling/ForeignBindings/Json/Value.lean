import ForeignBindings.Json.Number

/-!
# JSON values

Documents as trees.  A document keeps the members of its objects as they were written; its
normal form has the members of every object in the order of their names, and of a repeated name
only the last member.
-/

namespace ForeignBindings

/-- A JSON document. -/
inductive Json where
  | null
  | bool (value : Bool)
  | number (value : Json.Number)
  | string (value : String)
  | array (items : List Json)
  | object (members : List (String × Json))
  deriving Repr, Inhabited

namespace Json

/-- A member in front of the first member of a sorted list whose name is not smaller; a member of
the same name stays and the new one is dropped. -/
def insertMember (member : String × Json) : List (String × Json) → List (String × Json)
  | [] => [member]
  | head :: tail =>
      if head.1 < member.1 then head :: insertMember member tail
      else if head.1 = member.1 then head :: tail
      else member :: head :: tail

mutual

/-- The normal form of a document. -/
def normalize : Json → Json
  | .array items => .array (normalizeItems items)
  | .object members => .object (normalizeMembers members)
  | .null => .null
  | .bool value => .bool value
  | .number value => .number value
  | .string value => .string value

/-- The normal forms of the items of an array. -/
def normalizeItems : List Json → List Json
  | [] => []
  | item :: rest => normalize item :: normalizeItems rest

/-- The members of an object in normal form, the last one of each name. -/
def normalizeMembers : List (String × Json) → List (String × Json)
  | [] => []
  | (name, value) :: rest => insertMember (name, normalize value) (normalizeMembers rest)

end

mutual

/-- How many arrays and objects lie within each other. -/
def depth : Json → Nat
  | .array items => itemsDepth items + 1
  | .object members => membersDepth members + 1
  | _ => 0

/-- The greatest depth of an item. -/
def itemsDepth : List Json → Nat
  | [] => 0
  | item :: rest => max (depth item) (itemsDepth rest)

/-- The greatest depth of a member's value. -/
def membersDepth : List (String × Json) → Nat
  | [] => 0
  | (_, value) :: rest => max (depth value) (membersDepth rest)

end

/-- The first member of a given name. -/
def member? (members : List (String × Json)) (name : String) : Option Json :=
  (members.find? fun member => member.1 == name).map Prod.snd

/-- The members of an object. -/
def members? : Json → Option (List (String × Json))
  | .object members => some members
  | _ => none

/-- Whether a value is `null`. -/
def isNull : Json → Bool
  | .null => true
  | _ => false

/-- The text of a string. -/
def text? : Json → Option String
  | .string value => some value
  | _ => none

/-- The number of a numeric value. -/
def number? : Json → Option Number
  | .number value => some value
  | _ => none

/-- The value as a signed integer of 64 bits. -/
def asSigned? (json : Json) : Option Int :=
  json.number?.bind Number.asSigned?

/-- The value as an unsigned integer of 64 bits. -/
def asUnsigned? (json : Json) : Option Nat :=
  json.number?.bind Number.asUnsigned?

end Json
end ForeignBindings
