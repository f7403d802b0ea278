/-!
# Fingerprints of texts

A text is known by a word of 64 bits. Every byte is joined to the word by exclusive or, and the word
is then multiplied by a prime (the hash FNV-1a), so texts of the same bytes have one fingerprint and
others almost always differ.
-/

namespace Tapline.Text

/-- The fingerprint of no text. -/
def fingerprintStart : UInt64 := 0xcbf29ce484222325

/-- The fingerprint of a text with one more byte. -/
def fingerprintByte (sofar : UInt64) (byte : UInt8) : UInt64 :=
  (sofar ^^^ byte.toUInt64) * 0x100000001b3

def fingerprint (s : String) : UInt64 := s.toUTF8.data.toList.foldl fingerprintByte fingerprintStart

end Tapline.Text
