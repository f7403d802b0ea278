import Tapline.Json.Access
import Tapline.Slots
/-!
# Plain values as documents

A plain value is known by the name of its type and a document. The value of the unit type is shown
by a word, since it has nothing else to show.
-/

namespace Tapline.PlainType

/-- The type of a name; another name is that of the unit type. -/
def named : String → PlainType
  | "u32" => unsigned32
  | "i64" => signed64
  | "bool" => boolean
  | "string" => text
  | _ => unit

def ofDocument (document : Json) : (type : PlainType) → type.Carrier
  | unsigned32 => UInt32.ofNat document.nat
  | signed64 => Int64.ofInt document.int
  | boolean => document.flag
  | text => document.str
  | unit => ()

def document : (type : PlainType) → type.Carrier → Json
  | unsigned32, n => UInt32.toNat n
  | signed64, n => .ofInt (Int64.toInt n)
  | boolean, b => .bool b
  | text, s => .string s
  | unit, _ => "unit"

end Tapline.PlainType
