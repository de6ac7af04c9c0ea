set_option autoImplicit false

/-!
JSON values. The fields of an object keep their order, so that a written value has one text.
A number that is no whole number of 64 bits is kept as the text of its floating-point number.
-/
namespace JourneyPlanner

inductive Json where
  | null
  | bool (value : Bool)
  | int (value : Int)
  | real (literal : String)
  | string (text : String)
  | array (items : List Json)
  | object (fields : List (String × Json))
  /-- Well formed, but no value: it names a half of a character, or a number out of all range. It
  does no harm where nothing looks at it. -/
  | illegible
  /-- An object of which no more than these fields can be read. -/
  | fragment (fields : List (String × Json))
  deriving Inhabited

namespace Json

/-- The value of a field; an absent field and a value that is no object have none. -/
def field? (name : String) : Json → Option Json
  | .object fields => fields.lookup name
  | _ => none

def text? : Json → Option String
  | .string text => some text
  | _ => none

def fields? : Json → Option (List (String × Json))
  | .object fields => some fields
  | _ => none

def isNull : Json → Bool
  | .null => true
  | _ => false

mutual
/-- Nothing in the value is illegible. -/
def isLegible : Json → Bool
  | .illegible | .fragment _ => false
  | .array items => itemsLegible items
  | .object fields => fieldsLegible fields
  | _ => true

def itemsLegible : List Json → Bool
  | [] => true
  | item :: rest => item.isLegible && itemsLegible rest

def fieldsLegible : List (String × Json) → Bool
  | [] => true
  | (_, value) :: rest => value.isLegible && fieldsLegible rest
end

mutual
/-- How deep arrays and objects nest. -/
def depth : Json → Nat
  | .array items => itemsDepth items + 1
  | .object fields => fieldsDepth fields + 1
  | _ => 0

def itemsDepth : List Json → Nat
  | [] => 0
  | item :: rest => max item.depth (itemsDepth rest)

def fieldsDepth : List (String × Json) → Nat
  | [] => 0
  | (_, value) :: rest => max value.depth (fieldsDepth rest)
end

/-- Of successive fields of one name the last. -/
def lastOfEach : List (String × Json) → List (String × Json)
  | first :: second :: rest =>
      if first.1 = second.1 then lastOfEach (second :: rest)
      else first :: lastOfEach (second :: rest)
  | fields => fields

mutual
/-- The same value with the fields of every object in the order of their names. Each name stands
once, with its last value. -/
def sorted : Json → Json
  | .array items => .array (sortedItems items)
  | .object fields =>
      .object (lastOfEach ((sortedFields fields).mergeSort fun a b => a.1 ≤ b.1))
  | other => other

def sortedItems : List Json → List Json
  | [] => []
  | item :: rest => item.sorted :: sortedItems rest

def sortedFields : List (String × Json) → List (String × Json)
  | [] => []
  | (name, value) :: rest => (name, value.sorted) :: sortedFields rest
end

end Json

end JourneyPlanner
