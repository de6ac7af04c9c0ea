import JourneyPlanner.Json.Record
import JourneyPlanner.Timetable.Connection

set_option autoImplicit false

/-! Pages of a list of trips, told apart by the time asked for or by the trip they adjoin. -/
namespace JourneyPlanner

inductive Page where
  /-- The first trips departing at a time or after it. -/
  | departing (time : Instant)
  /-- The last trips arriving at a time or before it. -/
  | arriving (time : Instant)
  | after (key : TripKey)
  | before (key : TripKey)

namespace Page

def admits (page : Page) (key : TripKey) : Bool :=
  match page with
  | departing time => time ≤ key.departure
  | arriving time => key.arrival ≤ time
  | after bound => bound.precedes key
  | before bound => key.precedes bound

/-- Pages that look back end where the others begin. -/
def looksBack : Page → Bool
  | arriving _ | before _ => true
  | departing _ | after _ => false

def lastOf {α : Type} (count : Nat) (elements : List α) : List α :=
  elements.drop (elements.length - count)

/-- The trips of the page with their positions in the list, at most so many. -/
def select (page : Page) (size : Nat) (trips : List Trip) : List (Trip × Nat) :=
  let admitted := trips.zipIdx.filter fun entry => page.admits entry.1.key
  if page.looksBack then lastOf size admitted else admitted.take size

end Page

/-- A page of trips cut from a list, and whether there are trips before and after it. -/
structure Cut where
  first : Trip
  last : Trip
  trips : List Trip
  earlier : Bool
  later : Bool

/-- An empty page is none. -/
def Page.cut? (page : Page) (size : Nat) (trips : List Trip) : Option Cut :=
  let selected := page.select size trips
  match selected.head?, selected.getLast? with
  | some first, some last => some {
      first := first.1
      last := last.1
      trips := selected.map (·.1)
      earlier := decide (0 < first.2)
      later := decide (last.2 + 1 < trips.length) }
  | _, _ => none

/-- What a continuation of a timetable carries: the query, and where its page begins and ends. -/
structure Cursor where
  query : TripQuery
  first : TripKey
  last : TripKey

namespace Cursor

instance : Codec Cursor where
  encode c := .object [("query", encode c.query), ("first", encode c.first),
    ("last", encode c.last)]
  decode := Record.decode <| mk <$> .required "query" <*> .required "first" <*> .required "last"

/-- The page that follows or precedes that of the cursor. -/
def page (c : Cursor) (later : Bool) : Page :=
  if later then .after c.last else .before c.first

end Cursor

end JourneyPlanner
