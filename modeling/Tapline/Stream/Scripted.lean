import Tapline.Stream.Basic
/-!
# Scripted streams

A scripted stream keeps every call that reaches it, takes at most so many bytes at a time, and
fails the calls that its script names by number, counting from one. Writing all of some bytes
takes as many calls as are needed, and no call at all for none.
-/

namespace Tapline

/-- A call that reached a stream. -/
inductive StreamCall where
  | wrote (bytes : ByteArray)
  | writeFailed
  | flushed
  | flushFailed

/-- A stream that follows a script. -/
structure ScriptedStream where
  failWrites : List Nat
  failFlushes : List Nat
  /-- The most bytes that one call takes, if there is a limit. -/
  most : Option Nat
  writes : Nat
  flushes : Nat
  calls : Array StreamCall

namespace ScriptedStream

/-- A stream that no call has reached. -/
def new (failWrites failFlushes : List Nat) (most : Option Nat) : ScriptedStream :=
  ⟨failWrites, failFlushes, most, 0, 0, #[]⟩

/-- Adds a call to those kept. -/
def keep (stream : ScriptedStream) (call : StreamCall) : ScriptedStream :=
  { stream with calls := stream.calls.push call }

/-- One write call: the number of bytes taken. -/
def writeOnce (stream : ScriptedStream) (bytes : ByteArray) :
    Except IOFault Nat × ScriptedStream :=
  let stream := { stream with writes := stream.writes + 1 }
  if stream.writes ∈ stream.failWrites then
    (.error (.other "chunk write refused"), stream.keep .writeFailed)
  else
    let taken := min bytes.size (stream.most.getD bytes.size)
    (.ok taken, stream.keep (.wrote (bytes.extract 0 taken)))

/-- Writes until nothing is left; a call that takes nothing is a fault. -/
def writeLoop : Nat → ScriptedStream → ByteArray → Except IOFault Unit × ScriptedStream
  | 0, stream, _ => (.ok (), stream)
  | fuel + 1, stream, bytes =>
    if bytes.isEmpty then (.ok (), stream)
    else match stream.writeOnce bytes with
      | (.error fault, stream) => (.error fault, stream)
      | (.ok 0, stream) => (.error .nothingTaken, stream)
      | (.ok taken, stream) => writeLoop fuel stream (bytes.extract taken bytes.size)

def writeAll (stream : ScriptedStream) (bytes : ByteArray) :
    Except IOFault Unit × ScriptedStream := writeLoop (bytes.size + 1) stream bytes

/-- One flush call. -/
def flush (stream : ScriptedStream) : Except IOFault Unit × ScriptedStream :=
  let stream := { stream with flushes := stream.flushes + 1 }
  if stream.flushes ∈ stream.failFlushes then
    (.error (.other "chunk flush refused"), stream.keep .flushFailed)
  else (.ok (), stream.keep .flushed)

end ScriptedStream

end Tapline
