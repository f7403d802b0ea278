import Tapline.Json.Reader
/-!
# Random identifiers

An identifier is thirty-six characters: hexadecimal digits in five groups between hyphens. The
digit that begins the third group tells how it was made, and is a four if it was made at random.
-/

namespace Tapline.Text

/-- Where the hyphens of an identifier stand. -/
def hyphenPlaces : List Nat := [8, 13, 18, 23]

/-- Where the digit stands that tells how an identifier was made. -/
def versionPlace : Nat := 14

/-- Whether a text has the form of a random identifier. -/
def isRandomIdentifier (s : String) : Bool :=
  s.toList.length == 36 && s.toList.zipIdx.all fun entry =>
    if hyphenPlaces.contains entry.2 then entry.1 == '-'
    else if entry.2 == versionPlace then entry.1 == '4'
    else (Json.hexValue? entry.1).isSome

/-- A number in the form of a random identifier. -/
def numberedIdentifier (n : Nat) : String :=
  let digits := Nat.toDigits 10 n
  "00000000-0000-4000-8000-" ++
    String.ofList (List.replicate (12 - digits.length) '0' ++ digits)

end Tapline.Text
