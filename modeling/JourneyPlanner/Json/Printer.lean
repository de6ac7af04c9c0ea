import JourneyPlanner.Json.Basic
import JourneyPlanner.Text.Digits

set_option autoImplicit false

/-!
The compact text of a JSON value: no white space, fields in their order, and only those characters
escaped that must be. Each writer puts its text in front of what follows.
-/
namespace JourneyPlanner.Json

def escapeChar (c : Char) : List Char :=
  if c = '"' then ['\\', '"']
  else if c = '\\' then ['\\', '\\']
  else if c = '\x08' then ['\\', 'b']
  else if c = '\t' then ['\\', 't']
  else if c = '\n' then ['\\', 'n']
  else if c = '\x0c' then ['\\', 'f']
  else if c = '\r' then ['\\', 'r']
  else if c.toNat < 0x20 then
    ['\\', 'u', '0', '0', Text.hexDigit (c.toNat / 16), Text.hexDigit (c.toNat % 16)]
  else [c]

def writeEscaped : List Char → List Char → List Char
  | [], rest => rest
  | c :: cs, rest => escapeChar c ++ writeEscaped cs rest

def writeString (text : String) (rest : List Char) : List Char :=
  '"' :: writeEscaped text.toList ('"' :: rest)

def writeInt (n : Int) (rest : List Char) : List Char :=
  if n < 0 then '-' :: (Text.digits n.natAbs ++ rest) else Text.digits n.natAbs ++ rest

mutual
def write : Json → List Char → List Char
  | .null, rest => 'n' :: 'u' :: 'l' :: 'l' :: rest
  | .bool true, rest => 't' :: 'r' :: 'u' :: 'e' :: rest
  | .bool false, rest => 'f' :: 'a' :: 'l' :: 's' :: 'e' :: rest
  | .int n, rest => writeInt n rest
  | .real literal, rest => literal.toList ++ rest
  | .string text, rest => writeString text rest
  | .illegible, rest | .fragment _, rest =>
      '"' :: '\\' :: 'u' :: 'd' :: 'c' :: '0' :: '0' :: '"' :: rest
  | .array [], rest => '[' :: ']' :: rest
  | .array (item :: items), rest => '[' :: write item (writeItems items rest)
  | .object [], rest => '\x7b' :: '\x7d' :: rest
  | .object ((name, value) :: fields), rest =>
      '\x7b' :: writeString name (':' :: write value (writeFields fields rest))

/-- The items after the first, and the closing bracket. -/
def writeItems : List Json → List Char → List Char
  | [], rest => ']' :: rest
  | item :: items, rest => ',' :: write item (writeItems items rest)

/-- The fields after the first, and the closing brace. -/
def writeFields : List (String × Json) → List Char → List Char
  | [], rest => '\x7d' :: rest
  | (name, value) :: fields, rest =>
      ',' :: writeString name (':' :: write value (writeFields fields rest))
end

def render (value : Json) : String :=
  String.ofList (value.write [])

end JourneyPlanner.Json
