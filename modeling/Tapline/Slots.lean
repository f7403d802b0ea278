/-!
# One value per type

State that travels with an operation is kept by type: at most one value for each. Types are named
by tags, each tag with the type of values it carries, so a look-up needs no cast and cannot find
a value of another type.

## Main statements

- `Slots.get?_put`, `Slots.get?_take`: look-up after a change.
-/

namespace Tapline

/-- At most one value for each tag. -/
structure Slots {τ : Type u} (Carrier : τ → Type v) where
  get? : (tag : τ) → Option (Carrier tag)

namespace Slots

variable {τ : Type u} {Carrier : τ → Type v} [DecidableEq τ]

def empty : Slots Carrier := ⟨fun _ => none⟩

instance : Inhabited (Slots Carrier) := ⟨empty⟩

/-- Stores a value in place of an older one of its type. -/
def put (slots : Slots Carrier) (tag : τ) (value : Carrier tag) : Slots Carrier :=
  ⟨fun other => if same : tag = other then some (same ▸ value) else slots.get? other⟩

def take (slots : Slots Carrier) (tag : τ) : Slots Carrier :=
  ⟨fun other => if tag = other then none else slots.get? other⟩

/-- How many of the given tags have a value, in words. -/
def describe (slots : Slots Carrier) (tags : List τ) : String :=
  "Extensions \x7b len: " ++ toString (tags.countP fun tag => (slots.get? tag).isSome) ++ " \x7d"

def contains (slots : Slots Carrier) (tag : τ) : Bool := (slots.get? tag).isSome

/-- How many of the given tags have a value. -/
def count (slots : Slots Carrier) (tags : List τ) : Nat := tags.countP slots.contains

theorem get?_put (slots : Slots Carrier) (tag other : τ) (value : Carrier tag) :
    (slots.put tag value).get? other =
      if same : tag = other then some (same ▸ value) else slots.get? other := rfl

@[simp] theorem get?_put_self (slots : Slots Carrier) (tag : τ) (value : Carrier tag) :
    (slots.put tag value).get? tag = some value := by simp [get?_put]

theorem get?_take (slots : Slots Carrier) (tag other : τ) :
    (slots.take tag).get? other = if tag = other then none else slots.get? other := rfl

end Slots

/-! ### Common tags -/

/-- The plain types that programs attach to contexts, operations and opaque values. -/
inductive PlainType where
  | unsigned32
  | signed64
  | boolean
  | text
  | unit
deriving DecidableEq, Repr

namespace PlainType

/-- The values of a plain type. -/
abbrev Carrier : PlainType → Type
  | unsigned32 => UInt32
  | signed64 => Int64
  | boolean => Bool
  | text => String
  | unit => Unit

def all : List PlainType := [unsigned32, signed64, boolean, text, unit]

end PlainType

/-- A value together with its plain type. -/
structure Sealed where
  type : PlainType
  value : type.Carrier

namespace Sealed

instance : Inhabited Sealed := ⟨⟨.unit, ()⟩⟩

/-- The value, if it has the type asked for. -/
def open? (sealedValue : Sealed) (type : PlainType) : Option type.Carrier :=
  if same : sealedValue.type = type then some (same ▸ sealedValue.value) else none

end Sealed

end Tapline
