import Tapline.Bag
/-!
# Breadcrumbs

A breadcrumb is a short entry about one operation that ran before an error was reported. A trail
keeps the last breadcrumbs up to its capacity: when it is full, a new one takes the place of the
oldest, and a trail without capacity stays empty.
-/

namespace Tapline

/-- How bad an entry is. -/
inductive BreadcrumbLevel where
  | debug | info | warning | error | fatal
deriving DecidableEq, Repr

def BreadcrumbLevel.name : BreadcrumbLevel → String
  | .debug => "debug"
  | .info => "info"
  | .warning => "warning"
  | .error => "error"
  | .fatal => "fatal"

/-- One entry of a trail. -/
structure Breadcrumb where
  timestamp : Timestamp
  type : String
  category : Option String
  message : Option String
  level : BreadcrumbLevel
  data : KeyMap Json

namespace Breadcrumb

/-- The type of an entry that names none. -/
def defaultType : String := "default"

/-- An entry of a type, made at a point in time. -/
def new (timestamp : Timestamp) (type : String) : Breadcrumb :=
  ⟨timestamp, type, none, none, .info, .empty⟩

def withData (crumb : Breadcrumb) (key : String) (value : Json) : Breadcrumb :=
  { crumb with data := crumb.data.insert key value }

def equals (a b : Breadcrumb) : Bool :=
  a.timestamp == b.timestamp && a.type == b.type && a.category == b.category &&
    a.message == b.message && a.level == b.level && Json.equalsMembers a.data.entries b.data.entries

/-- The JSON members of an entry in the order of its parts; details are left out if there are
none. -/
def members (crumb : Breadcrumb) : List (String × Json) :=
  let optional (text : Option String) : Json := text.elim .null .string
  [("timestamp", .string crumb.timestamp.internetText), ("type", .string crumb.type),
    ("category", optional crumb.category), ("message", optional crumb.message),
    ("level", .string crumb.level.name)] ++
    (if crumb.data.entries.isEmpty then [] else [("data", .object crumb.data.entries)])

/-- The JSON text of an entry, its members in the order of its parts. -/
def text (crumb : Breadcrumb) : String :=
  "\x7b" ++ Json.writeMembers crumb.members ++ "\x7d"

end Breadcrumb

/-- A bounded row of breadcrumbs, the oldest first. -/
structure Trail where
  capacity : Nat
  crumbs : List Breadcrumb

namespace Trail

/-- The capacity of a trail that is given none. -/
def defaultCapacity : Nat := 100

def ofCapacity (capacity : Nat) : Trail := ⟨capacity, []⟩

instance : Inhabited Trail := ⟨ofCapacity defaultCapacity⟩

/-- Drops the oldest entries until there is room for one more. -/
def makeRoom (capacity : Nat) (crumbs : List Breadcrumb) : List Breadcrumb :=
  match crumbs with
  | [] => []
  | oldest :: rest =>
    if capacity ≤ (oldest :: rest).length then makeRoom capacity rest else oldest :: rest

/-- Adds an entry; the oldest goes when the trail is full. -/
def push (trail : Trail) (crumb : Breadcrumb) : Trail :=
  if trail.capacity = 0 then trail
  else { trail with crumbs := makeRoom trail.capacity trail.crumbs ++ [crumb] }

/-- The entries, and the trail without them. -/
def take (trail : Trail) : List Breadcrumb × Trail := (trail.crumbs, { trail with crumbs := [] })

end Trail

end Tapline
