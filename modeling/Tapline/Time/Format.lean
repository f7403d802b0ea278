import Tapline.Time.Zone
/-!
# Time formats

A format is text with specifiers: a percent sign, an optional padding mark for numbers (`-` none,
`_` blanks, `0` zeros), and a letter. A format is read before it is used; a specifier that does
not exist makes it invalid as a whole.
-/

namespace Tapline

/-- What fills a number up to its width. -/
inductive Padding where
  | none
  | blank
  | zero
deriving DecidableEq, Repr

/-- A number within a civil time. -/
inductive TimeNumber where
  | year | century | yearOfCentury | month | day | hour | hour12 | minute | second
  | dayOfYear | weekdayFromMonday | weekdayFromSunday | epochSeconds | nanos
deriving DecidableEq, Repr

/-- One piece of a format. -/
inductive TimeItem where
  | literal (c : Char)
  | number (which : TimeNumber) (padding : Padding)
  /-- A fraction of the second in a fixed number of digits. -/
  | fraction (digits : Nat) (point : Bool)
  /-- A fraction of the second in no, three, six or nine digits, as many as it needs. -/
  | shortestFraction
  | monthName (full : Bool)
  | weekdayName (full : Bool)
  | halfOfDay (upper : Bool)
  | offset (colon : Bool)
deriving DecidableEq, Repr

namespace TimeItem

private def two (which : TimeNumber) : TimeItem := .number which .zero

/-- The pieces that a letter stands for. -/
def ofLetter? : Char → Option (List TimeItem)
  | 'Y' => some [two .year]
  | 'C' => some [two .century]
  | 'y' => some [two .yearOfCentury]
  | 'm' => some [two .month]
  | 'd' => some [two .day]
  | 'e' => some [.number .day .blank]
  | 'H' => some [two .hour]
  | 'k' => some [.number .hour .blank]
  | 'I' => some [two .hour12]
  | 'l' => some [.number .hour12 .blank]
  | 'M' => some [two .minute]
  | 'S' => some [two .second]
  | 'p' => some [.halfOfDay true]
  | 'P' => some [.halfOfDay false]
  | 'j' => some [two .dayOfYear]
  | 'a' => some [.weekdayName false]
  | 'A' => some [.weekdayName true]
  | 'b' => some [.monthName false]
  | 'h' => some [.monthName false]
  | 'B' => some [.monthName true]
  | 'u' => some [.number .weekdayFromMonday .none]
  | 'w' => some [.number .weekdayFromSunday .none]
  | 's' => some [.number .epochSeconds .none]
  | 'f' => some [two .nanos]
  | 'z' => some [.offset false]
  | 'T' => some [two .hour, .literal ':', two .minute, .literal ':', two .second]
  | 'X' => some [two .hour, .literal ':', two .minute, .literal ':', two .second]
  | 'R' => some [two .hour, .literal ':', two .minute]
  | 'D' => some [two .month, .literal '/', two .day, .literal '/', two .yearOfCentury]
  | 'x' => some [two .month, .literal '/', two .day, .literal '/', two .yearOfCentury]
  | 'F' => some [two .year, .literal '-', two .month, .literal '-', two .day]
  | 'n' => some [.literal '\n']
  | 't' => some [.literal '\t']
  | '%' => some [.literal '%']
  | _ => none

/-- A specifier with its padding replaced; only numbers have one. -/
def repad? (padding : Padding) : List TimeItem → Option (List TimeItem)
  | [.number which _] => some [.number which padding]
  | _ => none

/-- The pieces of one specifier, less its percent sign, and what follows it. -/
def ofSpecifier? : List Char → Option (List TimeItem × List Char)
  | '-' :: c :: rest => (ofLetter? c >>= repad? .none).map (·, rest)
  | '_' :: c :: rest => (ofLetter? c >>= repad? .blank).map (·, rest)
  | '0' :: c :: rest => (ofLetter? c >>= repad? .zero).map (·, rest)
  | '.' :: 'f' :: rest => some ([.shortestFraction], rest)
  | '.' :: '3' :: 'f' :: rest => some ([.fraction 3 true], rest)
  | '.' :: '6' :: 'f' :: rest => some ([.fraction 6 true], rest)
  | '.' :: '9' :: 'f' :: rest => some ([.fraction 9 true], rest)
  | '3' :: 'f' :: rest => some ([.fraction 3 false], rest)
  | '6' :: 'f' :: rest => some ([.fraction 6 false], rest)
  | '9' :: 'f' :: rest => some ([.fraction 9 false], rest)
  | ':' :: 'z' :: rest => some ([.offset true], rest)
  | c :: rest => (ofLetter? c).map (·, rest)
  | [] => none

/-- A number and the width it is padded to. Seconds are counted in UTC whatever the clock shows. -/
def numberOf (t : LocalTime) (civil : CivilTime) : TimeNumber → Int × Nat
  | .year => (civil.year, 4)
  | .century => (civil.year / 100, 2)
  | .yearOfCentury => (civil.year % 100, 2)
  | .month => (civil.month, 2)
  | .day => (civil.day, 2)
  | .hour => (civil.hour, 2)
  | .hour12 => (if civil.hour % 12 = 0 then 12 else (civil.hour % 12 : Nat), 2)
  | .minute => (civil.minute, 2)
  | .second => (civil.second, 2)
  | .dayOfYear => ((civil.dayOfYear : Int) + 1, 3)
  | .weekdayFromMonday => (if civil.weekday = 0 then 7 else civil.weekday, 1)
  | .weekdayFromSunday => (civil.weekday, 1)
  | .epochSeconds => (t.instant.seconds, 9)
  | .nanos => (civil.nanos, 9)

/-- A number kept in a byte and written in two places. Tens beyond nine go on with the characters
that follow the digit nine. -/
def twoPlaces (padding : Padding) (n : Int) : List Char :=
  let byte := (n % 256).toNat
  let tens := byte / 10
  let front : List Char :=
    if tens ≠ 0 then [Char.ofNat ('0'.toNat + tens)]
    else match padding with
      | .none => []
      | .blank => [' ']
      | .zero => ['0']
  front ++ [Nat.digitChar (byte % 10)]

/-- A padded number. A year that is negative or has more than four digits takes a sign beside
its width; any other number counts its sign into the width. -/
def numberText (which : TimeNumber) (padding : Padding) (n : Int) (width : Nat) : List Char :=
  let yearLike : Bool := which == .year
  -- A year of five digits would not read as a year without its sign.
  let signed : Bool := n < 0 || (yearLike && Nat.pow 10 width ≤ n)
  let sign : List Char := if n < 0 then ['-'] else if signed then ['+'] else []
  let digits := Nat.toDigits 10 n.natAbs
  let room := if signed && !yearLike then width - 1 else width
  match padding with
  | .none => sign ++ digits
  | .zero => sign ++ List.replicate (room - digits.length) '0' ++ digits
  | .blank => List.replicate (room - digits.length) ' ' ++ sign ++ digits

def monthNames : List String :=
  ["January", "February", "March", "April", "May", "June", "July", "August", "September",
    "October", "November", "December"]

/-- Full weekday names, from Sunday. -/
def weekdayNames : List String :=
  ["Sunday", "Monday", "Tuesday", "Wednesday", "Thursday", "Friday", "Saturday"]

/-- A name, or its first three letters. -/
def nameText (names : List String) (index : Nat) (full : Bool) : List Char :=
  let name := (names.getD index "").toList
  if full then name else name.take 3

/-- The first digits of a fraction of a second. -/
def fractionDigits (nanos digits : Nat) : List Char :=
  Duration.padded digits (nanos / Nat.pow 10 (9 - digits))

/-- A piece of a format filled in. -/
def text (t : LocalTime) (civil : CivilTime) : TimeItem → List Char
  | .literal c => [c]
  | .number which padding =>
    let (n, width) := numberOf t civil which
    if which == .century then twoPlaces padding n else numberText which padding n width
  | .fraction digits point => (if point then ['.'] else []) ++ fractionDigits civil.nanos digits
  | .shortestFraction =>
    if civil.nanos = 0 then []
    else if civil.nanos % 1000000 = 0 then '.' :: fractionDigits civil.nanos 3
    else if civil.nanos % 1000 = 0 then '.' :: fractionDigits civil.nanos 6
    else '.' :: fractionDigits civil.nanos 9
  | .monthName full => nameText monthNames (civil.month - 1) full
  | .weekdayName full => nameText weekdayNames civil.weekday full
  | .halfOfDay upper =>
    if civil.hour < 12 then (if upper then ['A', 'M'] else ['a', 'm'])
    else (if upper then ['P', 'M'] else ['p', 'm'])
  | .offset colon => t.offset.text colon

end TimeItem

/-- A readable time format. -/
abbrev TimeFormat := List TimeItem

namespace TimeFormat

/-- Reads a format, one specifier or character at a time. -/
def read? : Nat → List Char → Option TimeFormat
  | 0, _ => some []
  | _, [] => some []
  | fuel + 1, '%' :: rest => do
    let (items, rest) ← TimeItem.ofSpecifier? rest
    return items ++ (← read? fuel rest)
  | fuel + 1, c :: rest => do return .literal c :: (← read? fuel rest)

/-- Reads a format; none if it holds an unknown specifier. -/
def ofText? (text : String) : Option TimeFormat := read? text.length text.toList

/-- A local time written in a format. -/
def apply (format : TimeFormat) (t : LocalTime) : String :=
  String.ofList (format.flatMap (TimeItem.text t t.civil))

/-- The layout of a time that stands as a plain value: `2019/01/02 11:36:28.000`. -/
def plain : TimeFormat :=
  [.number .year .zero, .literal '/', .number .month .zero, .literal '/', .number .day .zero,
    .literal ' ', .number .hour .zero, .literal ':', .number .minute .zero, .literal ':',
    .number .second .zero, .fraction 3 true]

/-- The layout of RFC 3339 up to the offset, with as many digits as the fraction needs. -/
def internetClock : TimeFormat :=
  [.number .year .zero, .literal '-', .number .month .zero, .literal '-', .number .day .zero,
    .literal 'T', .number .hour .zero, .literal ':', .number .minute .zero, .literal ':',
    .number .second .zero, .shortestFraction]

end TimeFormat

namespace Timestamp

/-- The layout of RFC 3339 in UTC. -/
def internetText (t : Timestamp) : String := TimeFormat.internetClock.apply (.utc t) ++ "Z"

end Timestamp

namespace LocalTime

def text (t : LocalTime) : String := TimeFormat.plain.apply t

/-- What the clock shows in the layout of RFC 3339, with the offset to the second. -/
def describe (t : LocalTime) : String :=
  TimeFormat.internetClock.apply t ++ String.ofList t.offset.describe

end LocalTime

end Tapline
