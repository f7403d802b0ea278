import Tapline.Json.Access
import Tapline.Text.Hex
import Tapline.Value.Basic
/-!
# Values as tagged documents

The JSON form of a value forgets its sort: a point in time becomes a text like any other. A tagged
document keeps the sort, as the name of an only member. Doubles are given by their bits, so that
none is rounded; they may also be read from decimal text. A value that is hidden is known by its
label alone, and each one that is read is a new one. A time is known by its point in time; one that
is read is taken from a clock in UTC. Texts may be given as repetitions, and a value may be wrapped
many times at once.
-/

namespace Tapline

/-- A double by its bits. -/
def Binary64.tagged (x : Binary64) : Json :=
  if x.isNaN then "nan" else "bits:" ++ Text.hexNumber 16 x.bits.toNat

/-- The infinity that a text names, in short or in full and in letters of any case, perhaps after a
sign. -/
def Binary64.infinityNamed? (text : String) : Option Binary64 :=
  let name := text.toList.map Char.toLower
  let (negative, name) := match name with
    | '-' :: name => (true, name)
    | '+' :: name => (false, name)
    | name => (false, name)
  if name = "inf".toList ∨ name = "infinity".toList then some (.infinity negative) else none

/-- A double by its bits, or from decimal text by a rule of rounding. -/
def Binary64.ofTagged (round : Decimal → Binary64) (text : String) : Binary64 :=
  if text.startsWith "bits:" then ⟨UInt64.ofNat (Text.unhexNumber (text.toList.drop 5))⟩
  else
    match infinityNamed? text with
    | some x => x
    | none => ((Decimal.ofText? text.toList).map round).getD .nan

/-- A duration from its seconds and nanoseconds. -/
def Duration.ofTagged (document : Json) : Duration :=
  .ofNanos ((document.nth 0).nat * nanosPerSecond + (document.nth 1).nat)

def Duration.tagged (d : Duration) : Json :=
  .array [(d.seconds.toNat : Json), (d.nanos : Json)]

/-- A point in time from its seconds and nanoseconds. -/
def Timestamp.ofTagged (document : Json) : Timestamp :=
  ⟨(document.nth 0).int, (document.nth 1).nat⟩

def Timestamp.tagged (t : Timestamp) : Json := .array [.ofInt t.seconds, .ofNat t.nanos]

namespace Value

def tag (name : String) (document : Json) : Json := .object [(name, document)]

mutual

/-- The tagged document of a value, given how points in time are shown. -/
def tagged (time : Timestamp → Json) : Value → Json
  | .null => .null
  | .text s => tag "str" s
  | .int n => tag "int" (.ofInt n.toInt)
  | .uint n => tag "uint" n.toNat
  | .float x => tag "float" x.tagged
  | .bool b => tag "bool" b
  | .time t => tag "time" (time t.instant)
  | .duration d => tag "dur" d.tagged
  | .bytes b => tag "bytes" (Text.hex b)
  | .list items => tag "list" (.array (taggedItems time items))
  | .map entries => tag "map" (.object (taggedEntries time entries))
  | .json document => tag "json" document
  | .error message => tag "error" message
  | .hidden o => tag "opaque" o.label

def taggedItems (time : Timestamp → Json) : List Value → List Json
  | [] => []
  | item :: rest => tagged time item :: taggedItems time rest

def taggedEntries (time : Timestamp → Json) : List (String × Value) → List (String × Json)
  | [] => []
  | (key, value) :: rest => (key, tagged time value) :: taggedEntries time rest

end

/-- The value of a tag that holds no other values. -/
def ofTag (name : String) (document : Json) : Value :=
  match name with
  | "str" => .text document.str
  | "int" => .int (Int64.ofInt document.int)
  | "uint" => .uint (UInt64.ofNat document.nat)
  | "float" => .float (.ofTagged Decimal.toBinary64 document.text)
  | "bool" => .bool document.flag
  | "time" => .time (.utc (.ofTagged document))
  | "dur" => .duration (.ofTagged document)
  | "bytes" => .bytes (Text.unhex document.text)
  | "json" => .json document
  | "error" => .error document.str
  | _ => .null

/-- The hidden value of a label, holding a text; it is numbered as a new one. -/
def ofLabel (content : String → String) (label : String) : StateM Nat Value :=
  modifyGet fun n => (.hidden ⟨label, n, ⟨.text, content label⟩⟩, n + 1)

/-- A value wrapped so many times, each time as the only item of a list or the only entry of a
map. -/
def wrapped (sort : String) : Nat → Value → Value
  | 0, value => value
  | n + 1, value => wrapped sort n (if sort = "map" then .map [("k", value)] else .list [value])

mutual

/-- The value of a tagged document, given the text that a hidden value of a label holds. Hidden
values are numbered as they are met. -/
def ofTagged (content : String → String) : Json → StateM Nat Value
  | .object [("nest", .array [sort, count, inner])] => do
    return wrapped sort.text count.nat (← ofTagged content inner)
  | .object [(name, .array items)] =>
    if name = "list" then do return .list (← ofTaggedItems content items)
    else if name = "repeat" then return .text (Json.str (.object [(name, .array items)]))
    else return ofTag name (.array items)
  | .object [(name, .object members)] =>
    if name = "map" then do return .ofEntries (← ofTaggedMembers content members)
    else if name = "opaque" then ofLabel content (Json.str (.object members))
    else return ofTag name (.object members)
  | .object [(name, document)] =>
    if name = "opaque" then ofLabel content document.text else return ofTag name document
  | _ => return .null

def ofTaggedItems (content : String → String) : List Json → StateM Nat (List Value)
  | [] => return []
  | item :: rest => do
    let value ← ofTagged content item
    return value :: (← ofTaggedItems content rest)

def ofTaggedMembers (content : String → String) :
    List (String × Json) → StateM Nat (List (String × Value))
  | [] => return []
  | (key, item) :: rest => do
    let value ← ofTagged content item
    return (key, value) :: (← ofTaggedMembers content rest)

end

end Value

end Tapline
