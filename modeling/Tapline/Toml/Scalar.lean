import Tapline.Json.Reader
import Tapline.Number.Decimal
import Tapline.Time.Calendar
import Tapline.Toml.Basic
/-!
# TOML scalars

Numbers, truth values and dates are written without marks, so the whole word decides what it is.
Underscores may stand between digits. An integer must fit 64 bits with a sign.
-/

namespace Tapline.Toml

/-- Digits with single underscores between them, less the underscores. -/
def digits? (isDigit : Char → Bool) (cs : List Char) : Option (List Char) :=
  let rec go : Bool → List Char → Option (List Char)
    | afterDigit, [] => if afterDigit then some [] else none
    | afterDigit, c :: rest =>
      if isDigit c then (go true rest).map (c :: ·)
      else if c = '_' ∧ afterDigit then go false rest
      else none
  go false cs

/-- The number of a row of digits in a base. -/
def valueIn (base : Nat) (digits : List Char) : Nat :=
  digits.foldl (fun n c => n * base + (Json.hexValue? c).getD 0) 0

/-- A sign, and what follows it. -/
def splitSign : List Char → Option Char × List Char
  | '+' :: rest => (some '+', rest)
  | '-' :: rest => (some '-', rest)
  | rest => (none, rest)

/-- Decimal digits without a needless zero first. -/
def whole? (cs : List Char) : Option (List Char) := do
  let digits ← digits? Char.isDigit cs
  if 1 < digits.length ∧ digits.head? = some '0' then none else some digits

/-- An integer of 64 bits. -/
def inRange? (n : Int) : Option Int :=
  if -0x8000000000000000 ≤ n ∧ n ≤ 0x7FFFFFFFFFFFFFFF then some n else none

def integer? (cs : List Char) : Option Int :=
  match cs with
  | '0' :: 'x' :: rest =>
    (digits? (fun c => (Json.hexValue? c).isSome) rest).bind (fun ds => inRange? (valueIn 16 ds))
  | '0' :: 'o' :: rest =>
    (digits? (fun c => '0' ≤ c && c ≤ '7') rest).bind (fun ds => inRange? (valueIn 8 ds))
  | '0' :: 'b' :: rest =>
    (digits? (fun c => c == '0' || c == '1') rest).bind (fun ds => inRange? (valueIn 2 ds))
  | cs => do
    let (sign, rest) := splitSign cs
    let n : Int := valueIn 10 (← whole? rest)
    inRange? (if sign = some '-' then -n else n)

/-- Whether a word is a float: a fraction, an exponent, or both, or a special word. -/
def isFloat (cs : List Char) : Bool :=
  let (_, rest) := splitSign cs
  if rest == "inf".toList || rest == "nan".toList then true
  else
    let isMark (c : Char) : Bool := c == 'e' || c == 'E'
    let mantissa := rest.takeWhile (fun c => !isMark c)
    let exponent := rest.dropWhile (fun c => !isMark c)
    let exponentOk := match exponent with
      | [] => true
      | _ :: power => (digits? Char.isDigit (splitSign power).2).isSome
    let wholePart := mantissa.takeWhile (· != '.')
    match mantissa.dropWhile (· != '.') with
    | [] => !exponent.isEmpty && exponentOk && (whole? wholePart).isSome
    | _ :: fraction =>
      exponentOk && (whole? wholePart).isSome && (digits? Char.isDigit fraction).isSome

/-- Whether a numeral rounds to infinity. One that rounds to negative infinity is let pass. -/
def overflows (cs : List Char) : Bool :=
  (Decimal.ofText? (cs.filter (· != '_'))).map Decimal.toBinary64 == some (.infinity false)

/-! ### Dates and times -/

/-- A number of so many digits, and the rest. -/
def fixed? (width : Nat) (cs : List Char) : Option (Nat × List Char) :=
  let front := cs.take width
  if front.length = width ∧ front.all Char.isDigit then some (valueIn 10 front, cs.drop width)
  else none

/-- Skips a character. -/
def expect? (c : Char) : List Char → Option (List Char)
  | d :: rest => if c = d then some rest else none
  | [] => none

/-- The number of days of a month. -/
def daysInMonth (year month : Nat) : Nat :=
  if month = 2 then if CivilTime.isLeapYear year then 29 else 28
  else if month ∈ [4, 6, 9, 11] then 30 else 31

def date? (cs : List Char) : Option (List Char) := do
  let (year, rest) ← fixed? 4 cs
  let (month, rest) ← fixed? 2 (← expect? '-' rest)
  let (day, rest) ← fixed? 2 (← expect? '-' rest)
  if 1 ≤ month ∧ month ≤ 12 ∧ 1 ≤ day ∧ day ≤ daysInMonth year month then some rest else none

def time? (cs : List Char) : Option (List Char) := do
  let (hour, rest) ← fixed? 2 cs
  let (minute, rest) ← fixed? 2 (← expect? ':' rest)
  let (second, rest) ← fixed? 2 (← expect? ':' rest)
  if 24 ≤ hour ∨ 60 ≤ minute ∨ 60 < second then none
  match rest with
  | '.' :: rest =>
    let fraction := rest.takeWhile Char.isDigit
    if fraction.isEmpty then none else some (rest.drop fraction.length)
  | rest => some rest

/-- Skips a distance from UTC, or nothing. -/
def offset? (cs : List Char) : Option (List Char) :=
  match cs with
  | 'Z' :: rest | 'z' :: rest => some rest
  | '+' :: rest | '-' :: rest => do
    let (hour, rest) ← fixed? 2 rest
    let (minute, rest) ← fixed? 2 (← expect? ':' rest)
    if 24 ≤ hour ∨ 60 ≤ minute then none else some rest
  | rest => some rest

/-- Whether a word is a date, a time, or both, with or without a distance from UTC. -/
def isDatetime (cs : List Char) : Bool :=
  match date? cs with
  | some [] => true
  | some (mark :: rest) =>
    (mark == 'T' || mark == 't' || mark == ' ') && (time? rest >>= offset?) == some []
  | none => time? cs == some []

def scalar? (cs : List Char) : Option Item :=
  if cs == "true".toList then some (.boolean true)
  else if cs == "false".toList then some (.boolean false)
  else match integer? cs with
    | some n => some (.integer n)
    | none =>
      if isFloat cs then if overflows cs then none else some .float
      else if isDatetime cs then some .datetime else none

/-- Whether a character may stand in a word. -/
def isWordChar (c : Char) : Bool :=
  c.isAlphanum || c == '+' || c == '-' || c == '_' || c == '.' || c == ':'

/-- A word, and the rest. A blank between a date and a time belongs to the word. -/
def splitWord (cs : List Char) : List Char × List Char :=
  let (word, rest) := cs.span isWordChar
  match rest with
  | ' ' :: next =>
    if date? word == some [] ∧ (next.head?.map Char.isDigit).getD false then
      let (time, rest) := next.span isWordChar
      (word ++ ' ' :: time, rest)
    else (word, rest)
  | _ => (word, rest)

end Tapline.Toml
