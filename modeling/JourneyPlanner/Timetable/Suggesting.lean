import JourneyPlanner.Location.Ranking
import JourneyPlanner.Text.Alphanumeric
import JourneyPlanner.Text.Lowercase
import JourneyPlanner.Timetable.Basic

set_option autoImplicit false

/-! How well a place answers a free text. -/
namespace JourneyPlanner

namespace Text

/-- The runs of letters and digits of a text, with nothing between two separators that adjoin. -/
def words : List Char → List (List Char)
  | [] => [[]]
  | c :: rest =>
      match words rest with
      | [] => [[c]]
      | word :: others =>
          if isAlphanumeric c then (c :: word) :: others else [] :: word :: others

/-- The needle stands somewhere in the text. -/
def occursIn (needle : List Char) : List Char → Bool
  | [] => needle.isEmpty
  | c :: rest => needle.isPrefixOf (c :: rest) || occursIn needle rest

end Text

namespace Location

def exactMatch : Int32 := 100
def beginningMatch : Int32 := 90
def wordMatch : Int32 := 50
def insideMatch : Int32 := 10

/-- The name, and the name after its place, in small letters. -/
def searchedNames (l : Location) (name : String) : List (List Char) :=
  let small := (Text.lowercase name).toList
  match l.place with
  | some place => [small, (Text.lowercase place).toList ++ ' ' :: small]
  | none => [small]

/-- The match of a text in small letters with the id or the name of a location. -/
def matchPriority (l : Location) (needle : String) : Option Int32 :=
  if l.id.any (fun id => Text.lowercase id = needle) then some exactMatch
  else match l.name with
    | none => none
    | some name =>
        let wanted := needle.toList
        let small := (Text.lowercase name).toList
        let names := l.searchedNames name
        if names.any (· = wanted) then some exactMatch
        else if names.any wanted.isPrefixOf then some beginningMatch
        else if (Text.words small).any wanted.isPrefixOf then some wordMatch
        else if Text.occursIn wanted small then some insideMatch
        else none

end Location

end JourneyPlanner
