import Tapline.Json.Writer
import Tapline.Text.Utf8
import Tapline.Time.Format
import Tapline.Value.Basic
/-!
# Values as JSON

A value has a JSON form unless it holds an opaque value at some depth. There are two ways to it:
`jsonText` writes the text as it walks the value, and `toJson` builds a document. Points in time,
durations, bytes and errors become strings of their texts; a double that is not finite becomes
null. Both ways stop at the first opaque value, depth first.
-/

namespace Tapline

/-- A value that has no JSON form: it holds the opaque value of this label. -/
structure EncodeError where
  label : String
deriving DecidableEq, Repr

def EncodeError.message (e : EncodeError) : String :=
  "opaque value `" ++ e.label ++ "` cannot be serialized"

namespace Value

mutual

/-- The opaque value met first, depth first. -/
def firstHidden? : Value → Option Opaque
  | .hidden o => some o
  | .list items => firstHiddenItem? items
  | .map entries => firstHiddenBinding? entries
  | _ => none

/-- The opaque value met first in a list. -/
def firstHiddenItem? : List Value → Option Opaque
  | [] => none
  | item :: rest => (firstHidden? item).or (firstHiddenItem? rest)

/-- The opaque value met first in a map. -/
def firstHiddenBinding? : List (String × Value) → Option Opaque
  | [] => none
  | (_, value) :: rest => (firstHidden? value).or (firstHiddenBinding? rest)

end

mutual

def jsonText : Value → Except EncodeError String
  | .null => .ok "null"
  | .text s => .ok (Json.quote s)
  | .int n => .ok (toString n.toInt)
  | .uint n => .ok (toString n.toNat)
  | .float x => .ok (if x.isFinite then x.text .json else "null")
  | .bool b => .ok (if b then "true" else "false")
  | .time t => .ok (Json.quote t.text)
  | .duration d => .ok (Json.quote d.text)
  | .bytes b => .ok (Json.quote (Text.decodeLossy b))
  | .json document => .ok document.write
  | .error message => .ok (Json.quote message)
  | .hidden o => .error ⟨o.label⟩
  | .list items => do return "[" ++ (← jsonItems items) ++ "]"
  | .map entries => do return "\x7b" ++ (← jsonEntries entries) ++ "\x7d"

def jsonItems : List Value → Except EncodeError String
  | [] => .ok ""
  | [item] => jsonText item
  | item :: rest => do
    let first ← jsonText item
    return first ++ "," ++ (← jsonItems rest)

def jsonEntries : List (String × Value) → Except EncodeError String
  | [] => .ok ""
  | [(key, value)] => do return Json.quote key ++ ":" ++ (← jsonText value)
  | (key, value) :: rest => do
    let first ← jsonText value
    return Json.quote key ++ ":" ++ first ++ "," ++ (← jsonEntries rest)

end

mutual

def toJson : Value → Except EncodeError Json
  | .null => .ok .null
  | .text s => .ok (.string s)
  | .int n => .ok (.ofInt n.toInt)
  | .uint n => .ok (.ofNat n.toNat)
  | .float x => .ok (.ofBinary64 x)
  | .bool b => .ok (.bool b)
  | .time t => .ok (.string t.text)
  | .duration d => .ok (.string d.text)
  | .bytes b => .ok (.string (Text.decodeLossy b))
  | .json document => .ok document
  | .error message => .ok (.string message)
  | .hidden o => .error ⟨o.label⟩
  | .list items => do return .array (← toJsonItems items)
  | .map entries => do return .object (← toJsonEntries entries)

def toJsonItems : List Value → Except EncodeError (List Json)
  | [] => .ok []
  | item :: rest => do
    let first ← toJson item
    return first :: (← toJsonItems rest)

def toJsonEntries : List (String × Value) → Except EncodeError (List (String × Json))
  | [] => .ok []
  | (key, value) :: rest => do
    let first ← toJson value
    return (key, first) :: (← toJsonEntries rest)

end

end Value

end Tapline
