import Tapline.Text.Hidden
/-!
# Quoted texts

A quoted text shows a string or a character inside a description of some structure, between
marks, so that it can be told from the text around it. The mark itself and the backslash take a
backslash; NUL, tab, line feed and carriage return have a letter; hidden characters are written
by number in hexadecimal.
-/

namespace Tapline.Text

/-- A character by number. -/
def byNumber (c : Char) : List Char :=
  ['\\', 'u', '\x7b'] ++ Nat.toDigits 16 c.toNat ++ ['\x7d']

/-- A character as it stands between marks. -/
def quotedChar (mark c : Char) : List Char :=
  if c = '\x00' then ['\\', '0']
  else if c = '\t' then ['\\', 't']
  else if c = '\n' then ['\\', 'n']
  else if c = '\r' then ['\\', 'r']
  else if c = '\\' then ['\\', '\\']
  else if c = mark then ['\\', mark]
  else if isHidden c then byNumber c
  else [c]

/-- A string between double quotes. -/
def quoted (s : String) : String :=
  String.ofList (['\x22'] ++ s.toList.flatMap (quotedChar '\x22') ++ ['\x22'])

/-- A character between single quotes. -/
def quotedSingle (c : Char) : String :=
  String.ofList (['\x27'] ++ quotedChar '\x27' c ++ ['\x27'])

end Tapline.Text
