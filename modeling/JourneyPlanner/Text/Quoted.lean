import JourneyPlanner.Text.Digits
import JourneyPlanner.Text.Shapeless

set_option autoImplicit false

/-! Texts quoted for messages, so that what is quoted stays on one line and its end can be seen. -/
namespace JourneyPlanner.Text

/-- The delimiter and the backslash are escaped, and what would break the line. A character that
could not be seen on its own is written by its code point. -/
def quoteChar (delimiter c : Char) : List Char :=
  if c = delimiter || c = '\\' then ['\\', c]
  else if c = '\n' then ['\\', 'n']
  else if c = '\t' then ['\\', 't']
  else if c = '\r' then ['\\', 'r']
  else if c.toNat = 0 then ['\\', '0']
  else if isShapeless c then ['\\', 'u', '\x7b'] ++ hexDigits c.toNat ++ ['\x7d']
  else [c]

def quoteChars (delimiter : Char) (cs : List Char) : List Char :=
  delimiter :: cs.flatMap (quoteChar delimiter) ++ [delimiter]

/-- A text between double quotes. -/
def quoted (text : String) : String :=
  String.ofList (quoteChars '"' text.toList)

/-- A character between single quotes. -/
def quotedChar (c : Char) : String :=
  String.ofList (quoteChars '\x27' [c])

end JourneyPlanner.Text
