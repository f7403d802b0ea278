import Tapline.Failure
/-!
# Bodies read once, used twice

A request body can be read only once. Reading it to its end gives a copy for the record and a
cursor from which the consumer reads the same bytes again. A reader answers each request with
data, with an interruption, which is tried again, or with a failure, which is passed on; no data
means the end.
-/

namespace Tapline

/-- One answer of a body reader. -/
inductive ReadAnswer where
  | data (bytes : ByteArray)
  | interrupted
  | failed (fault : IOFault)

/-- Reads to the end, after what has been read already. -/
def readToEnd (gathered : ByteArray) : List ReadAnswer → Except IOFault ByteArray
  | [] => .ok gathered
  | .interrupted :: rest => readToEnd gathered rest
  | .failed fault :: _ => .error fault
  | .data bytes :: rest =>
    -- No bytes mean the end, even if more answers would follow.
    if bytes.isEmpty then .ok gathered else readToEnd (gathered ++ bytes) rest

/-- A body that is given in pieces. -/
structure PiecewiseBody where
  content : ByteArray
  /-- The most bytes of one answer. -/
  most : Nat
  /-- Every reading from here on fails. -/
  failAt : Option Nat
  /-- Whether every other answer is an interruption, beginning with the first. -/
  interrupted : Bool

namespace PiecewiseBody

/-- The answers from an offset on. The offset is what has been read, so a failure set behind the end
of the content is never met. -/
def answersFrom (body : PiecewiseBody) : Nat → Nat → List ReadAnswer
  | 0, _ => []
  | fuel + 1, offset =>
    let interruption := if body.interrupted then [ReadAnswer.interrupted] else []
    if (body.failAt.map fun n => decide (n ≤ offset)).getD false then
      interruption ++ [.failed (.connectionReset "body reader failed")]
    else if body.content.size ≤ offset ∨ body.most = 0 then interruption
    else
      let stop := min (offset + body.most) body.content.size
      interruption ++ .data (body.content.extract offset stop) :: answersFrom body fuel stop

def answers (body : PiecewiseBody) : List ReadAnswer := body.answersFrom (body.content.size + 1) 0

end PiecewiseBody

/-- A place within bytes. -/
structure BodyCursor where
  content : ByteArray
  position : Nat

namespace BodyCursor

/-- Reads at most so many bytes. -/
def read (cursor : BodyCursor) (count : Nat) : ByteArray × BodyCursor :=
  let stop := min (cursor.position + count) cursor.content.size
  (cursor.content.extract cursor.position stop, { cursor with position := stop })

def readRest (cursor : BodyCursor) : ByteArray × BodyCursor := cursor.read cursor.content.size

end BodyCursor

/-- Reads a body to its end: a copy, and a cursor at the start of the same bytes. -/
def teeBody (reader : List ReadAnswer) : Except IOFault (ByteArray × BodyCursor) :=
  (readToEnd .empty reader).map fun body => (body, ⟨body, 0⟩)

end Tapline
