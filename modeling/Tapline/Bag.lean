import Tapline.KeyMap
import Tapline.Value.Display
/-!
# Argument bags

A bag binds argument names to values. The typed accessors never fail: a name that is not bound,
or is bound to a value of another sort, gives the accessor's default.
-/

namespace Tapline

/-! ### Well-known names -/

namespace ArgName

def uuid : String := "uuid"
def webUrl : String := "web_url"
def webMethod : String := "web_method"
def startTime : String := "start_time"
def endTime : String := "end_time"
def duration : String := "duration"
def source : String := "source"
def error : String := "error"
def funcName : String := "func_name"
def commandName : String := "command_name"
def methodName : String := "method_name"
def collectionName : String := "collection_name"
def dbName : String := "db_name"
def table : String := "table"
def operation : String := "operation"
def sql : String := "sql"
def key : String := "key"
def value : String := "value"
def url : String := "url"
def method : String := "method"
def statusCode : String := "status_code"
def requestBody : String := "request_body"
def responseBody : String := "response_body"
def extra : String := "extra"

end ArgName

/-- The arguments of an operation. -/
abbrev Bag := KeyMap Value

namespace Bag

/-- A text, or the empty one. -/
def text (bag : Bag) (name : String) : String := ((bag.get? name).bind Value.asText?).getD ""

/-- A signed integer, or zero. -/
def int (bag : Bag) (name : String) : Int64 := ((bag.get? name).bind Value.asInt?).getD 0

/-- An unsigned integer, or zero. -/
def uint (bag : Bag) (name : String) : UInt64 := ((bag.get? name).bind Value.asUInt?).getD 0

/-- A double, or zero. -/
def float (bag : Bag) (name : String) : Binary64 :=
  ((bag.get? name).bind Value.asFloat?).getD (.zero false)

/-- A truth value, or false. -/
def bool (bag : Bag) (name : String) : Bool := ((bag.get? name).bind Value.asBool?).getD false

def time? (bag : Bag) (name : String) : Option LocalTime := (bag.get? name).bind Value.asTime?

def duration? (bag : Bag) (name : String) : Option Duration :=
  (bag.get? name).bind Value.asDuration?

/-- A duration, or none at all. -/
def duration (bag : Bag) (name : String) : Duration := (bag.duration? name).getD .zero

/-- The text of an error. A text that is not empty counts as one. -/
def error? (bag : Bag) (name : String) : Option String :=
  match bag.get? name with
  | some (.error message) => some message
  | some (.text s) => if s.isEmpty then none else some s
  | _ => none

/-- Whether two bags bind the same names to equal values. -/
def equals (bag other : Bag) : Bool := Value.equalsEntries bag.entries other.entries

/-- The bag with the sort of every value. -/
def describe (bag : Bag) : String :=
  "Args(\x7b" ++ Value.describeEntries bag.entries ++ "\x7d)"

end Bag

end Tapline
