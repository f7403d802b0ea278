import Tapline.Json.Basic
import Tapline.Number.Decimal
/-!
# Reading JSON text

The reader takes one document, with blanks around it, and refuses anything else. It works on the
characters left; each step returns the rest. A number written without point and exponent that
fits 64 bits is an integer, and so keeps its kind when it is written again; any other is a double.
-/

namespace Tapline.Json

def skipBlanks (cs : List Char) : List Char :=
  cs.dropWhile (fun c => c == ' ' || c == '\n' || c == '\r' || c == '\t')

def hexValue? (c : Char) : Option Nat :=
  if '0' ≤ c ∧ c ≤ '9' then some (c.toNat - '0'.toNat)
  else if 'a' ≤ c ∧ c ≤ 'f' then some (c.toNat - 'a'.toNat + 10)
  else if 'A' ≤ c ∧ c ≤ 'F' then some (c.toNat - 'A'.toNat + 10)
  else none

/-- Four hexadecimal digits, and the rest. -/
def hexUnit? : List Char → Option (Nat × List Char)
  | a :: b :: c :: d :: rest => do
    let value := ((← hexValue? a) * 16 + (← hexValue? b)) * 256 + (← hexValue? c) * 16
    return (value + (← hexValue? d), rest)
  | _ => none

/-- The character of an escape by number: one unit, or two that form a surrogate pair. -/
def escapedUnit? (cs : List Char) : Option (Char × List Char) := do
  let (unit, rest) ← hexUnit? cs
  if 0xD800 ≤ unit ∧ unit < 0xDC00 then
    match rest with
    | '\\' :: 'u' :: rest =>
      let (second, rest) ← hexUnit? rest
      if 0xDC00 ≤ second ∧ second < 0xE000 then
        some (Char.ofNat (0x10000 + (unit - 0xD800) * 0x400 + (second - 0xDC00)), rest)
      else none
    | _ => none
  -- A low surrogate without a high one before it.
  else if 0xDC00 ≤ unit ∧ unit < 0xE000 then none
  else some (Char.ofNat unit, rest)

/-- The character of an escape by letter. -/
def escapedLetter? : Char → Option Char
  | '\x22' => some '\x22'
  | '\\' => some '\\'
  | '/' => some '/'
  | 'b' => some '\x08'
  | 'f' => some '\x0c'
  | 'n' => some '\n'
  | 'r' => some '\r'
  | 't' => some '\t'
  | _ => none

/-- The inside of a string up to its closing mark, gathered backwards, and the rest. -/
def readChars (gathered : List Char) : Nat → List Char → Option (String × List Char)
  | 0, _ => none
  | _, [] => none
  | fuel + 1, c :: rest =>
    if c = '\x22' then some (String.ofList gathered.reverse, rest)
    else if c = '\\' then
      match rest with
      | 'u' :: rest => do
        let (escaped, rest) ← escapedUnit? rest
        readChars (escaped :: gathered) fuel rest
      | letter :: rest => do readChars ((← escapedLetter? letter) :: gathered) fuel rest
      | [] => none
    -- Control characters must be escaped.
    else if c.toNat < 0x20 then none
    else readChars (c :: gathered) fuel rest

/-- Whether a numeral follows the JSON grammar: no needless zero first, digits round a point. -/
def wellFormedNumeral (cs : List Char) : Bool :=
  let cs := if cs.head? == some '-' then cs.drop 1 else cs
  let (whole, rest) := cs.span Char.isDigit
  let wholeOk := !whole.isEmpty && (whole.length == 1 || whole.head? != some '0')
  match rest with
  | '.' :: rest =>
    let (fraction, _) := rest.span Char.isDigit
    wholeOk && !fraction.isEmpty
  | _ => wholeOk

/-- The number of a numeral. -/
def numberOf? (cs : List Char) : Option JsonNumber := do
  if !wellFormedNumeral cs then none
  let decimal ← Decimal.ofText? cs
  let integral := cs.all (fun c => c.isDigit || c == '-')
  let n : Int := if decimal.negative then -(decimal.digits : Int) else decimal.digits
  -- Negative zero is a double, as is every integer beyond 64 bits.
  if integral ∧ -0x8000000000000000 ≤ n ∧ n ≤ 0xFFFFFFFFFFFFFFFF ∧
      !(decimal.negative && decimal.digits == 0) then
    some (.integer n)
  else
    let x := decimal.toBinary64
    if x.isFinite then some (.double x) else none

def isNumeralChar (c : Char) : Bool :=
  c.isDigit || c == '-' || c == '+' || c == '.' || c == 'e' || c == 'E'

/-- A numeral, and the rest. -/
def readNumber (cs : List Char) : Option (Json × List Char) := do
  let (numeral, rest) := cs.span isNumeralChar
  return (.number (← numberOf? numeral), rest)

mutual

/-- A document, and the rest. -/
def readDocument : Nat → List Char → Option (Json × List Char)
  | 0, _ => none
  | fuel + 1, cs =>
    match skipBlanks cs with
    | 'n' :: 'u' :: 'l' :: 'l' :: rest => some (.null, rest)
    | 't' :: 'r' :: 'u' :: 'e' :: rest => some (.bool true, rest)
    | 'f' :: 'a' :: 'l' :: 's' :: 'e' :: rest => some (.bool false, rest)
    | '\x22' :: rest => do
      let (s, rest) ← readChars [] (rest.length + 1) rest
      return (.string s, rest)
    | '[' :: rest =>
      match skipBlanks rest with
      | ']' :: rest => some (.array [], rest)
      | rest => do
        let (items, rest) ← readItems fuel rest
        return (.array items, rest)
    | '\x7b' :: rest =>
      match skipBlanks rest with
      | '\x7d' :: rest => some (.object [], rest)
      | rest => do
        let (members, rest) ← readMembers fuel rest
        return (ofMembers members, rest)
    | rest => readNumber rest

/-- Items up to the closing bracket, and the rest. -/
def readItems : Nat → List Char → Option (List Json × List Char)
  | 0, _ => none
  | fuel + 1, cs => do
    let (item, rest) ← readDocument fuel cs
    match skipBlanks rest with
    | ',' :: rest =>
      let (items, rest) ← readItems fuel rest
      return (item :: items, rest)
    | ']' :: rest => return ([item], rest)
    | _ => none

/-- Members up to the closing brace, and the rest. -/
def readMembers : Nat → List Char → Option (List (String × Json) × List Char)
  | 0, _ => none
  | fuel + 1, cs => do
    match skipBlanks cs with
    | '\x22' :: rest =>
      let (key, rest) ← readChars [] (rest.length + 1) rest
      match skipBlanks rest with
      | ':' :: rest =>
        let (value, rest) ← readDocument fuel rest
        match skipBlanks rest with
        | ',' :: rest =>
          let (members, rest) ← readMembers fuel rest
          return ((key, value) :: members, rest)
        | '\x7d' :: rest => return ([(key, value)], rest)
        | _ => none
      | _ => none
    | _ => none

end

/-- Reads one document; the text may hold nothing else but blanks. -/
def read? (text : String) : Option Json := do
  let cs := text.toList
  let (document, rest) ← readDocument (2 * cs.length + 2) cs
  if (skipBlanks rest).isEmpty then some document else none

end Tapline.Json
