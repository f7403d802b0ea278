import Tapline.Json.Basic
import Tapline.Number.FloatText
/-!
# JSON text

Documents are written without blanks. In a string the quotation mark, the backslash and the
controls are escaped, five controls by letter and the others by number in lowercase hexadecimal;
every other character stands for itself. So no written document holds a line break.
-/

namespace Tapline.Json

def hexDigit (n : Nat) : Char := Nat.digitChar (n % 16)

/-- A character as it stands in a JSON string. -/
def escapeChar (c : Char) : List Char :=
  if c = '\x22' then ['\\', '\x22']
  else if c = '\\' then ['\\', '\\']
  else if c = '\n' then ['\\', 'n']
  else if c = '\r' then ['\\', 'r']
  else if c = '\t' then ['\\', 't']
  else if c = '\x08' then ['\\', 'b']
  else if c = '\x0c' then ['\\', 'f']
  else if c.toNat < 0x20 then
    ['\\', 'u', '0', '0', hexDigit (c.toNat / 16), hexDigit c.toNat]
  else [c]

def quote (s : String) : String :=
  String.ofList ('\x22' :: (s.toList.flatMap escapeChar ++ ['\x22']))

/-- The text of a number; a double that is not finite has none and is written as null. -/
def numberText : JsonNumber → String
  | .integer n => toString n
  | .double x => if x.isFinite then x.text .json else "null"

mutual

def write : Json → String
  | .null => "null"
  | .bool b => if b then "true" else "false"
  | .number n => numberText n
  | .string s => quote s
  | .array items => "[" ++ writeItems items ++ "]"
  | .object members => "\x7b" ++ writeMembers members ++ "\x7d"

/-- Items between commas. -/
def writeItems : List Json → String
  | [] => ""
  | [item] => write item
  | item :: rest => write item ++ "," ++ writeItems rest

/-- Members between commas. -/
def writeMembers : List (String × Json) → String
  | [] => ""
  | [(key, value)] => quote key ++ ":" ++ write value
  | (key, value) :: rest => quote key ++ ":" ++ write value ++ "," ++ writeMembers rest

end

end Tapline.Json
