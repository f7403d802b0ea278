import Tapline.Json.Basic
import Tapline.Slots
import Tapline.Time.Zone
/-!
# Values

An argument of an operation is a value of one of fourteen sorts. Values are read through views:
a view of an integer accepts the other signedness where the number fits, a view of a double
accepts integers, and every other view accepts its own sort only. Equality compares within a
sort; doubles compare as numbers, local times as points in time, errors by their text, and opaque
values by identity.
-/

namespace Tapline

/-- A value that shows nothing but a label. Copies share an identity. -/
structure Opaque where
  label : String
  identity : Nat
  content : Sealed

instance : Inhabited Opaque := ⟨⟨"", 0, default⟩⟩

/-- An argument value. -/
inductive Value where
  | null
  | text (s : String)
  | int (n : Int64)
  | uint (n : UInt64)
  | float (x : Binary64)
  | bool (b : Bool)
  | time (t : LocalTime)
  | duration (d : Duration)
  | bytes (b : ByteArray)
  | list (items : List Value)
  /-- Entries ascend by key. -/
  | map (entries : List (String × Value))
  | json (document : Json)
  /-- An error, known by its text. -/
  | error (message : String)
  | hidden (o : Opaque)

instance : Inhabited Value := ⟨.null⟩

namespace Value

/-! ### Views -/

def isNull : Value → Bool
  | null => true
  | _ => false

def asText? : Value → Option String
  | text s => some s
  | _ => none

/-- A signed integer; an unsigned one counts if it fits. -/
def asInt? : Value → Option Int64
  | int n => some n
  | uint n => if n.toNat ≤ 0x7FFFFFFFFFFFFFFF then some (Int64.ofNat n.toNat) else none
  | _ => none

/-- An unsigned integer; a signed one counts if it is not negative. -/
def asUInt? : Value → Option UInt64
  | uint n => some n
  | int n => if 0 ≤ n.toInt then some (UInt64.ofNat n.toInt.toNat) else none
  | _ => none

/-- A double; an integer counts as the nearest one. -/
def asFloat? : Value → Option Binary64
  | float x => some x
  | int n => some (.ofInt n.toInt)
  | uint n => some (.ofInt n.toNat)
  | _ => none

def asBool? : Value → Option Bool
  | bool b => some b
  | _ => none

def asTime? : Value → Option LocalTime
  | time t => some t
  | _ => none

def asDuration? : Value → Option Duration
  | duration d => some d
  | _ => none

def asError? : Value → Option String
  | error message => some message
  | _ => none

/-! ### Equality -/

mutual

/-- Equality within a sort. -/
def equals : Value → Value → Bool
  | null, null => true
  | text a, text b => a == b
  | int a, int b => a == b
  | uint a, uint b => a == b
  | float a, float b => a.equals b
  | bool a, bool b => a == b
  | time a, time b => a.simultaneous b
  | duration a, duration b => a == b
  | bytes a, bytes b => a == b
  | list a, list b => equalsItems a b
  | map a, map b => equalsEntries a b
  | json a, json b => a.equals b
  | error a, error b => a == b
  | hidden a, hidden b => a.identity == b.identity
  | _, _ => false

def equalsItems : List Value → List Value → Bool
  | [], [] => true
  | a :: as, b :: bs => equals a b && equalsItems as bs
  | _, _ => false

def equalsEntries : List (String × Value) → List (String × Value) → Bool
  | [], [] => true
  | (k, a) :: as, (l, b) :: bs => k == l && equals a b && equalsEntries as bs
  | _, _ => false

end

/-! ### Making values -/

/-- A map of the given entries; of several with one key the last stands. -/
def ofEntries (entries : List (String × Value)) : Value :=
  .map (entries.foldl (fun made entry => insertEntry entry.1 entry.2 made) [])

/-- The integer types that values are made from. -/
inductive IntegerType where
  | signed16 | signed32 | signed64 | unsigned16 | unsigned32 | unsigned64 | word
deriving DecidableEq, Repr

/-- The type of a name. -/
def IntegerType.named? : String → Option IntegerType
  | "i16" => some .signed16
  | "i32" => some .signed32
  | "i64" => some .signed64
  | "u16" => some .unsigned16
  | "u32" => some .unsigned32
  | "u64" => some .unsigned64
  | "usize" => some .word
  | _ => none

/-- The least and the greatest number of a type. -/
def IntegerType.range : IntegerType → Int × Int
  | .signed16 => (-0x8000, 0x7FFF)
  | .signed32 => (-0x80000000, 0x7FFFFFFF)
  | .signed64 => (-0x8000000000000000, 0x7FFFFFFFFFFFFFFF)
  | .unsigned16 => (0, 0xFFFF)
  | .unsigned32 => (0, 0xFFFFFFFF)
  | .unsigned64 => (0, 0xFFFFFFFFFFFFFFFF)
  | .word => (0, 0xFFFFFFFFFFFFFFFF)

def IntegerType.holds (type : IntegerType) (n : Int) : Bool :=
  type.range.1 ≤ n && n ≤ type.range.2

/-- The value of a number of an integer type: signed types are stored signed, the others
unsigned. -/
def ofInteger (type : IntegerType) (n : Int) : Value :=
  match type with
  | .signed16 | .signed32 | .signed64 => .int (Int64.ofInt n)
  | .unsigned16 | .unsigned32 | .unsigned64 | .word => .uint (UInt64.ofNat n.toNat)

/-- The value of something that may be missing. -/
def ofOption {α : Type} (make : α → Value) : Option α → Value
  | some a => make a
  | none => .null

end Value

end Tapline
