import Tapline.Json.Reader
import Tapline.Json.Writer
/-!
# Bytes in hexadecimal

Two lowercase digits for each byte, without anything between them. Reading takes digits of either
case; a lone last digit is not counted.
-/

namespace Tapline.Text

def hex (bytes : ByteArray) : String :=
  String.ofList (bytes.data.toList.flatMap fun byte =>
    [Json.hexDigit (byte.toNat / 16), Json.hexDigit byte.toNat])

/-- The number that a digit stands for; another character stands for nothing. -/
def digitValue (c : Char) : Nat := (Json.hexValue? c).getD 0

private def readPairs : List Char → ByteArray → ByteArray
  | high :: low :: rest, made =>
    readPairs rest (made.push (UInt8.ofNat (16 * digitValue high + digitValue low)))
  | _, made => made

/-- The bytes of digits. -/
def unhex (digits : String) : ByteArray := readPairs digits.toList .empty

/-- The number of digits. -/
def unhexNumber (digits : List Char) : Nat :=
  digits.foldl (fun n c => 16 * n + digitValue c) 0

/-- The digits of a number, with zeros in front of the missing ones. -/
def hexNumber (width n : Nat) : String :=
  let digits := Nat.toDigits 16 n
  String.ofList (List.replicate (width - digits.length) '0' ++ digits)

end Tapline.Text
