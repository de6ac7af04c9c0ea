import JourneyPlanner.Badge.Basic

set_option autoImplicit false

/-!
The badges of a network by key. A key names a line, a product or the night buses, on its own or
within a network, and the most special key present decides.
-/
namespace JourneyPlanner

/-- Badges with their keys. Every key stands once. -/
structure BadgeTable where
  entries : List (String × Badge)

namespace BadgeTable

def empty : BadgeTable := ⟨[]⟩

instance : Inhabited BadgeTable := ⟨empty⟩

def get? (table : BadgeTable) (key : String) : Option Badge :=
  table.entries.lookup key

def isEmpty (table : BadgeTable) : Bool :=
  table.entries.isEmpty

/-- The value of a key is replaced where it stands; a new key goes to the end. -/
def insertEntry (key : String) (badge : Badge) : List (String × Badge) → List (String × Badge)
  | [] => [(key, badge)]
  | (other, old) :: rest =>
      if other = key then (key, badge) :: rest else (other, old) :: insertEntry key badge rest

def insert (table : BadgeTable) (key : String) (badge : Badge) : BadgeTable :=
  ⟨insertEntry key badge table.entries⟩

/-- Of several badges for one key the last counts. -/
def ofList (entries : List (String × Badge)) : BadgeTable :=
  entries.foldl (fun table entry => table.insert entry.1 entry.2) empty

/-- Buses whose label begins with an N run at night. -/
def isNightBus (product : Product) (label : String) : Bool :=
  product = .bus && label.toList.head? = some 'N'

/-- The keys that may give the badge of a line, the most special first. -/
def keys (network : Option String) (product : Product) (label : String) : List String :=
  let code := String.singleton product.code
  let night := isNightBus product label
  let within := match network with
    | some network =>
        [network ++ "|" ++ code ++ "|" ++ label, network ++ "|" ++ code] ++
          (if night then [network ++ "|BN"] else [])
    | none => []
  within ++ [code ++ label, code] ++ (if night then ["BN"] else [])

/-- The badge of a line, from the line's own key down to the standard one of its product. -/
def lookup (table : BadgeTable) (network : Option String) (product : Option Product)
    (label : Option String) : Badge :=
  match product with
  | none => .standard none
  | some p => ((keys network p (label.getD "")).findSome? table.get?).getD (.standard (some p))

/-- A decoded table keeps the order in which its keys stand. -/
def decodeEntries : List (String × Json) → Decoded (List (String × Badge))
  | [] => .ok []
  | (key, value) :: rest => do
      let badge ← decode value
      let entries ← decodeEntries rest
      return (key, badge) :: entries

instance : Codec BadgeTable where
  encode table := .object (table.entries.map fun entry => (entry.1, encode entry.2))
  decode
    | .object fields => (decodeEntries fields).map ofList
    | .fragment fields => (decodeEntries fields).bind fun _ => .error .malformed
    | _ => .error .malformed

end BadgeTable

end JourneyPlanner
