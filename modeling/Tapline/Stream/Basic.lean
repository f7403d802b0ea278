import Tapline.Notice
/-!
# Streams of bytes

A stream takes bytes and may be told to flush them. Each call may be refused, and the stream may
also crash, which ends whoever made the call. A stream lives in surroundings that its calls may
change, such as a disk, and tells what happened in notices. Whoever owns a stream gives it up in
the end.
-/

namespace Tapline

/-- Why a stream did not do what it was told. -/
inductive StreamFault where
  | refused (fault : IOFault)
  | crashed (cause : Fatal)
deriving DecidableEq, Repr

/-- The notice of a crash. -/
def StreamFault.notices {α : Type u} : Except StreamFault α → List Notice
  | .error (.crashed cause) => [.fatal cause]
  | _ => []

/-- The answer of a stream, and what has become of it and its surroundings. -/
structure StreamStep (δ : Type u) (ε : Type v) where
  result : Except StreamFault Unit
  stream : δ
  around : ε
  notices : List Notice

/-- A sort of streams in surroundings of a sort. -/
class ByteStream (δ : Type u) (ε : outParam (Type v)) where
  writeAll : δ → ε → ByteArray → StreamStep δ ε
  /-- Passes on everything written. -/
  flush : δ → ε → StreamStep δ ε
  /-- Gives the stream up. -/
  release : δ → ε → δ × ε

end Tapline
