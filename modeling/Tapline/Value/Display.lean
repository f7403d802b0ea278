import Tapline.Text.Quoted
import Tapline.Value.Encode
/-!
# Values as text

In running text a value stands as itself: texts without quotes, nothing for null, numbers in
plain digits. Lists and maps stand as JSON where they have a JSON form. Where they have none, a
looser form still shows everything: items or `key:value` pairs between single blanks, an opaque
value as its label. A description shows the sort of a value as well; an error is known by its
text alone, so its description gives it no particular kind.
-/

namespace Tapline

namespace Value

mutual

def display : Value → String
  | .null => ""
  | .text s => s
  | .int n => toString n.toInt
  | .uint n => toString n.toNat
  | .float x => x.text .plain
  | .bool b => if b then "true" else "false"
  | .time t => t.text
  | .duration d => d.text
  | .bytes b => Text.decodeLossy b
  | .json document => document.write
  | .error message => message
  | .hidden o => o.label
  | .list items =>
    match jsonItems items with
    | .ok inside => "[" ++ inside ++ "]"
    | .error _ => "[" ++ looseItems items ++ "]"
  | .map entries =>
    match jsonEntries entries with
    | .ok inside => "\x7b" ++ inside ++ "\x7d"
    | .error _ => "\x7b" ++ looseEntries entries ++ "\x7d"

/-- Items between blanks. -/
def looseItems : List Value → String
  | [] => ""
  | [item] => display item
  | item :: rest => display item ++ " " ++ looseItems rest

/-- Pairs of key and value between blanks. -/
def looseEntries : List (String × Value) → String
  | [] => ""
  | [(key, value)] => key ++ ":" ++ display value
  | (key, value) :: rest => key ++ ":" ++ display value ++ " " ++ looseEntries rest

end

/-- The loose form of a map, whether or not it has a JSON form. -/
def looseMap (entries : List (String × Value)) : String := "\x7b" ++ looseEntries entries ++ "\x7d"

end Value

/-! ### Descriptions -/

namespace Json

mutual

/-- A document with the sort of every part. -/
def describe : Json → String
  | .null => "Null"
  | .bool b => "Bool(" ++ (if b then "true" else "false") ++ ")"
  | .number n => "Number(" ++ numberText n ++ ")"
  | .string s => "String(" ++ Text.quoted s ++ ")"
  | .array items => "Array [" ++ describeItems items ++ "]"
  | .object members => "Object \x7b" ++ describeMembers members ++ "\x7d"

def describeItems : List Json → String
  | [] => ""
  | [item] => describe item
  | item :: rest => describe item ++ ", " ++ describeItems rest

def describeMembers : List (String × Json) → String
  | [] => ""
  | [(key, value)] => Text.quoted key ++ ": " ++ describe value
  | (key, value) :: rest =>
    Text.quoted key ++ ": " ++ describe value ++ ", " ++ describeMembers rest

end

end Json

namespace Value

mutual

/-- A value with its sort. -/
def describe : Value → String
  | .null => "Null"
  | .text s => "Str(" ++ Text.quoted s ++ ")"
  | .int n => "Int(" ++ toString n.toInt ++ ")"
  | .uint n => "UInt(" ++ toString n.toNat ++ ")"
  | .float x => "Float(" ++ x.text .described ++ ")"
  | .bool b => "Bool(" ++ (if b then "true" else "false") ++ ")"
  | .time t => "Time(" ++ t.describe ++ ")"
  | .duration d => "Duration(" ++ d.text ++ ")"
  | .bytes b => "Bytes([" ++ ", ".intercalate (b.data.toList.map (fun x => toString x.toNat)) ++ "])"
  | .json document => "Json(" ++ document.describe ++ ")"
  | .error message => "Error(Custom \x7b kind: Other, error: " ++ Text.quoted message ++ " \x7d)"
  | .hidden o => "Opaque(Opaque(" ++ Text.quoted o.label ++ "))"
  | .list items => "List([" ++ describeItems items ++ "])"
  | .map entries => "Map(\x7b" ++ describeEntries entries ++ "\x7d)"

def describeItems : List Value → String
  | [] => ""
  | [item] => describe item
  | item :: rest => describe item ++ ", " ++ describeItems rest

def describeEntries : List (String × Value) → String
  | [] => ""
  | [(key, value)] => Text.quoted key ++ ": " ++ describe value
  | (key, value) :: rest =>
    Text.quoted key ++ ": " ++ describe value ++ ", " ++ describeEntries rest

end

end Value

end Tapline
