/-!
# Reading bytes as text

Bytes are read as UTF-8 and never refused: each maximal run of bytes that begins a well-formed
sequence without completing it is read as one replacement character, and so is each byte that
begins none. The reader goes byte by byte. What it waits for is the number of continuation bytes
still to come and the range that the next one must lie in; the ranges exclude overlong forms,
surrogates and code points above U+10FFFF, so a completed sequence always denotes a character.
-/

namespace Tapline.Text

/-- A sequence under way. -/
structure Partial where
  /-- Continuation bytes still to come. -/
  missing : Nat
  /-- Least value of the next byte. -/
  low : Nat
  /-- Greatest value of the next byte. -/
  high : Nat
  /-- Code point bits read so far. -/
  bits : Nat
deriving DecidableEq, Repr

/-- What stands for bytes that denote nothing. -/
def replacement : Char := '\uFFFD'

/-- The sequence that a lead byte begins. -/
def Partial.ofLead? (byte : Nat) : Option Partial :=
  if 0xC2 ≤ byte ∧ byte ≤ 0xDF then some ⟨1, 0x80, 0xBF, byte - 0xC0⟩
  else if byte = 0xE0 then some ⟨2, 0xA0, 0xBF, 0⟩
  -- Surrogates begin with this byte and are left out.
  else if byte = 0xED then some ⟨2, 0x80, 0x9F, 0xD⟩
  else if 0xE1 ≤ byte ∧ byte ≤ 0xEF then some ⟨2, 0x80, 0xBF, byte - 0xE0⟩
  else if byte = 0xF0 then some ⟨3, 0x90, 0xBF, 0⟩
  else if 0xF1 ≤ byte ∧ byte ≤ 0xF3 then some ⟨3, 0x80, 0xBF, byte - 0xF0⟩
  else if byte = 0xF4 then some ⟨3, 0x80, 0x8F, 4⟩
  else none

/-- Characters read so far, the last one first, and the sequence under way. -/
structure Utf8Reader where
  read : List Char
  pending : Option Partial
deriving DecidableEq, Repr

namespace Utf8Reader

/-- A byte outside any sequence. -/
def start (read : List Char) (byte : Nat) : Utf8Reader :=
  if byte < 0x80 then ⟨Char.ofNat byte :: read, none⟩
  else match Partial.ofLead? byte with
    | some begun => ⟨read, some begun⟩
    | none => ⟨replacement :: read, none⟩

/-- Reads one byte. A byte that cannot continue the sequence under way ends it and starts anew. -/
def step (reader : Utf8Reader) (byte : UInt8) : Utf8Reader :=
  let byte := byte.toNat
  match reader.pending with
  | none => start reader.read byte
  | some begun =>
    if begun.low ≤ byte ∧ byte ≤ begun.high then
      let bits := begun.bits * 64 + byte % 64
      if begun.missing ≤ 1 then ⟨Char.ofNat bits :: reader.read, none⟩
      else ⟨reader.read, some ⟨begun.missing - 1, 0x80, 0xBF, bits⟩⟩
    -- The sequence is cut off; its last byte may begin another one.
    else start (replacement :: reader.read) byte

/-- The characters read, once no byte follows. -/
def finish (reader : Utf8Reader) : List Char :=
  match reader.pending with
  | none => reader.read.reverse
  | some _ => (replacement :: reader.read).reverse

end Utf8Reader

/-- Bytes read as text, with replacement characters where they denote none. -/
def decodeLossy (bytes : ByteArray) : String :=
  String.ofList (bytes.data.toList.foldl Utf8Reader.step ⟨[], none⟩).finish

end Tapline.Text
