import Tapline.Template.Registry
import Tapline.Template.Basic
import Tapline.Time.Format
/-!
# Shapes of field functions

Most field functions read one argument and differ in what they do when it is missing or of
another sort. Each shape takes the name of the argument and the key of the field.
-/

namespace Tapline.FieldFunction

/-- A text, also when it is empty. -/
def text (name key : String) : FieldFunction := ofPure fun bag => .shown key (.text (bag.text name))

/-- A text, unless it is empty. -/
def optionalText (name key : String) : FieldFunction := ofPure fun bag =>
  ⟨key, .text (bag.text name), (bag.text name).isEmpty⟩

/-- Any value but null. -/
def value (name key : String) : FieldFunction := ofPure fun bag =>
  match bag.get? name with
  | some v => if v.isNull then .skipped key else .shown key v
  | none => .skipped key

def duration (name key : String) : FieldFunction := ofPure fun bag =>
  match bag.duration? name with
  | some d => .shown key (.duration d)
  | none => .skipped key

def error (name key : String) : FieldFunction := ofPure fun bag =>
  match bag.error? name with
  | some message => .shown key (.text message)
  | none => .skipped key

/-- A point in time in a format. A format that cannot be read ends the run once it is needed. -/
def time (name key format : String) : FieldFunction := fun bag =>
  match bag.time? name with
  | none => .done (.skipped key)
  | some t =>
    match TimeFormat.ofText? format with
    | some items => .done (.shown key (.text (items.apply t)))
    | none => .report (.fatal .invalidTimeFormat) (.done (.skipped key))

/-- A point in time in the plain layout. -/
def plainTime (name key : String) : FieldFunction := ofPure fun bag =>
  match bag.time? name with
  | some t => .shown key (.text t.text)
  | none => .skipped key

/-- The same value for every bag. -/
def constant (key : String) (v : Value) : FieldFunction := ofPure fun _ => .shown key v

/-- A signed integer, or zero. -/
def int (name key : String) : FieldFunction := ofPure fun bag => .shown key (.int (bag.int name))

/-- An unsigned integer, or zero. -/
def uint (name key : String) : FieldFunction := ofPure fun bag =>
  .shown key (.uint (bag.uint name))

/-- A double, or zero. -/
def float (name key : String) : FieldFunction := ofPure fun bag =>
  .shown key (.float (bag.float name))

/-- A truth value, or false. -/
def bool (name key : String) : FieldFunction := ofPure fun bag =>
  .shown key (.bool (bag.bool name))

/-- The line of another template for the same bag. -/
def line (key : String) (t : Template) : FieldFunction := fun bag =>
  .render .bytes t.segments bag fun line => .done (.shown key (.text line))

/-- The shape of a name, for shapes that need no more than an argument and a key. -/
def named? : String → Option (String → String → FieldFunction)
  | "string" => some text
  | "optional_string" => some optionalText
  | "value" => some value
  | "duration" => some duration
  | "error" => some error
  | "i64" => some int
  | "u64" => some uint
  | "f64" => some float
  | "bool" => some bool
  | _ => none

end Tapline.FieldFunction
