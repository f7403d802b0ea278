import Tapline.Text.LineBreaks
import Tapline.Template.Basic
/-!
# Lines

A template gives one line per bag, ending in its only line feed unless a literal holds another.
Each segment contributes on its own: a literal its text, a call the text of its field with line
breaks escaped, a group one JSON object of its fields, where of several fields with one key the
last stands. A group that holds an opaque value is written in the loose form instead, again with
line breaks escaped. A skipped field contributes nothing.
-/

namespace Tapline

/-- A result, and the notices that arose on the way. -/
structure Noted (α : Type u) where
  value : α
  notices : List Notice

def Noted.pure {α : Type u} (value : α) : Noted α := ⟨value, []⟩

namespace Field

/-- The text of a field that stands alone. -/
def text (field : Field) : String :=
  if field.skip then "" else Text.inline field.value.display

/-- The members that fields form: skipped fields left out, the last of a key standing. -/
def members (fields : List Field) : KeyMap Value :=
  KeyMap.ofList ((fields.filter (fun field => !field.skip)).map (fun f => (f.key, f.value)))

/-- The text of fields that form a group. -/
def groupText (fields : List Field) : Noted String :=
  let entries := (members fields).entries
  match (Value.map entries).jsonText with
  | .ok text => .pure text
  | .error cause => ⟨Text.inline (Value.looseMap entries), [.looseGroup cause]⟩

end Field

mutual

/-- The field that a probe ends with. -/
def Probe.field : Probe → Noted Field
  | .done field => .pure field
  | .report notice next =>
    let rest := Probe.field next
    ⟨rest.value, notice :: rest.notices⟩
  | .render _ segments bag next =>
    let body := bodyText segments bag
    let rest := Probe.field (next (body.value ++ "\n"))
    ⟨rest.value, body.notices ++ rest.notices⟩

/-- What a segment contributes to the line of a bag. -/
def Segment.text : Segment → Bag → Noted String
  | .literal text, _ => .pure text
  | .call f, bag =>
    let field := Probe.field (f bag)
    ⟨field.value.text, field.notices⟩
  | .group fs, bag =>
    let fields := groupFields fs bag
    let text := Field.groupText fields.value
    ⟨text.value, fields.notices ++ text.notices⟩

/-- The fields of a group. -/
def groupFields : List (Bag → Probe) → Bag → Noted (List Field)
  | [], _ => .pure []
  | f :: rest, bag =>
    let field := Probe.field (f bag)
    let fields := groupFields rest bag
    ⟨field.value :: fields.value, field.notices ++ fields.notices⟩

/-- The line of a bag, less its line feed. -/
def bodyText : List Segment → Bag → Noted String
  | [], _ => .pure ""
  | segment :: rest, bag =>
    let first := Segment.text segment bag
    let body := bodyText rest bag
    ⟨first.value ++ body.value, first.notices ++ body.notices⟩

end

def Template.line (t : Template) (bag : Bag) : Noted String :=
  let body := bodyText t.segments bag
  ⟨body.value ++ "\n", body.notices⟩

end Tapline
