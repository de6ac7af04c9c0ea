import JourneyPlanner.Text.CharRanges

set_option autoImplicit false

/-! White space in the sense of the Unicode property, and texts trimmed of it. -/
namespace JourneyPlanner.Text

/-- The characters with the property White_Space. -/
def blankRanges : CharRanges := [
  (0x9, 0xd), (0x20, 0x20), (0x85, 0x85), (0xa0, 0xa0), (0x1680, 0x1680), (0x2000, 0x200a),
  (0x2028, 0x2029), (0x202f, 0x202f), (0x205f, 0x205f), (0x3000, 0x3000)]

def isBlank (c : Char) : Bool :=
  blankRanges.contains c

def trimChars (cs : List Char) : List Char :=
  ((cs.dropWhile isBlank).reverse.dropWhile isBlank).reverse

/-- The text without the white space around it. -/
def trim (text : String) : String :=
  String.ofList (trimChars text.toList)

/-- Nothing but white space, or nothing at all. -/
def isBlankText (text : String) : Bool :=
  text.toList.all isBlank

end JourneyPlanner.Text
