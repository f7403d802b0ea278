import Tapline.Bag
import Tapline.Notice
/-!
# Templates and field functions

A template is a row of segments: literal text, calls of field functions, and groups of field
functions whose results form one JSON object. A field function looks at a bag and gives a field.
On its way it may report notices and render other templates, so what it does with a bag is a
small program, a `Probe`, and not only a result.
-/

namespace Tapline

/-- What a field function contributes to a line. -/
structure Field where
  /-- The name under which the value joins a group. -/
  key : String
  value : Value
  /-- A skipped field contributes nothing. -/
  skip : Bool
deriving Inhabited

namespace Field

def shown (key : String) (value : Value) : Field := ⟨key, value, false⟩

/-- A field that is left out everywhere. -/
def skipped (key : String) : Field := ⟨key, .null, true⟩

end Field

/-- How a line is asked for: as bytes, through the pooled line buffer, or as a fresh text. -/
inductive LineEntry where
  | bytes
  | fresh
deriving DecidableEq, Repr

mutual

/-- What a field function does with a bag. -/
inductive Probe where
  | done (field : Field)
  | report (notice : Notice) (next : Probe)
  /-- Renders another template and goes on with its line. -/
  | render (entry : LineEntry) (segments : List Segment) (bag : Bag) (next : String → Probe)

/-- One part of a template. -/
inductive Segment where
  | literal (text : String)
  | call (function : Bag → Probe)
  | group (functions : List (Bag → Probe))

end

instance : Inhabited Probe := ⟨.done default⟩

/-- A function from bags to fields. -/
abbrev FieldFunction := Bag → Probe

def FieldFunction.ofPure (f : Bag → Field) : FieldFunction := fun bag => .done (f bag)

/-- A template ready for use. -/
structure Template where
  source : String
  segments : List Segment

/-! ### Descriptions -/

/-- A segment by its sort. -/
def Segment.describe : Segment → String
  | .literal text => "Literal(" ++ Text.quoted text ++ ")"
  | .call _ => "Call"
  | .group functions => "JsonGroup(" ++ toString functions.length ++ ")"

/-- A template by its source and the sorts of its segments. -/
def Template.describe (t : Template) : String :=
  "Pattern \x7b template: " ++ Text.quoted t.source ++ ", emitters: [" ++
    ", ".intercalate (t.segments.map Segment.describe) ++ "] \x7d"

end Tapline
