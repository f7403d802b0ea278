import Tapline.Stream.Basic
/-!
# Flushing in the background

A flusher owns a stream and serves a queue of lines. Lines received wait until they are as many
bytes as the flusher's capacity, or until its timer fires, and are then handed to the stream as
one batch, which is written and flushed. A batch that fails is given up: the bytes are lost, and
the loss is noted, or told to the caller who asked for the flush. A stream that crashes takes the
flusher with it.

The queue and the timer are moved by explicit steps, so any interleaving of callers, queue and
timer is a sequence of steps.
-/

namespace Tapline

/-- A background flusher. -/
structure Flusher (δ : Type u) where
  stream : δ
  /-- Bytes that make a batch. -/
  capacity : Nat
  /-- Lines sent but not received. -/
  queue : List ByteArray
  /-- Bytes received but not handed to the stream. -/
  pending : ByteArray
  /-- False once a crash has ended the flusher. -/
  alive : Bool

/-- A flusher after a step, and what came of it. -/
structure FlusherStep (δ : Type u) (ε : Type v) where
  result : Except SinkError Unit
  flusher : Flusher δ
  around : ε
  notices : List Notice

/-- What a flusher does by itself. -/
inductive FlusherMove where
  /-- Receives the next line of the queue. -/
  | receive
  /-- The timer fires. -/
  | tick
deriving DecidableEq, Repr

namespace Flusher

variable {δ : Type u} {ε : Type v} [ByteStream δ ε]

/-- The greatest capacity that memory can be set aside for. -/
def greatestCapacity : Nat := 0x7FFFFFFFFFFFFFFF

/-- Starts a flusher; one whose capacity is too great ends at once and gives its stream up. -/
def start (stream : δ) (capacity : Nat) (around : ε) : Flusher δ × ε :=
  if capacity ≤ greatestCapacity then (⟨stream, capacity, [], .empty, true⟩, around)
  else
    -- There is no memory for such a batch.
    let (stream, around) := ByteStream.release stream around
    (⟨stream, capacity, [], .empty, false⟩, around)

def writeBatch (stream : δ) (around : ε) (batch : ByteArray) : StreamStep δ ε :=
  let written := ByteStream.writeAll stream around batch
  match written.result with
  | .error _ => written
  | .ok () =>
    let flushed := ByteStream.flush written.stream written.around
    { flushed with notices := written.notices ++ flushed.notices }

/-- Ends the flusher after a crash; lines on their way are gone. -/
def die (flusher : Flusher δ) (around : ε) : Flusher δ × ε :=
  let (stream, around) := ByteStream.release flusher.stream around
  ({ flusher with stream, queue := [], pending := .empty, alive := false }, around)

/-- Hands everything pending to the stream. The bytes are given up whatever the stream says;
`onLoss` is noted when it refuses them. -/
def drain (flusher : Flusher δ) (around : ε) (onLoss : Nat → IOFault → List Notice) :
    FlusherStep δ ε :=
  let step := writeBatch flusher.stream around flusher.pending
  let drained := { flusher with stream := step.stream, pending := .empty }
  match step.result with
  | .ok () => ⟨.ok (), drained, step.around, step.notices⟩
  | .error (.refused fault) =>
    ⟨.error (.io fault), drained, step.around,
      step.notices ++ onLoss flusher.pending.size fault⟩
  -- The flusher goes down with its stream, and no loss is noted.
  | .error (.crashed _) =>
    let (dead, around) := drained.die step.around
    ⟨.error .flusherDead, dead, around, step.notices⟩

/-- Hands everything pending to the stream on the flusher's own account. -/
def drainBatch (flusher : Flusher δ) (around : ε) : FlusherStep δ ε :=
  flusher.drain around fun bytes fault => [.batchDropped bytes fault]

def send (flusher : Flusher δ) (line : ByteArray) : Flusher δ :=
  { flusher with queue := flusher.queue ++ [line] }

/-- Receives the next line; a full batch is handed on. -/
def receive (flusher : Flusher δ) (around : ε) : FlusherStep δ ε :=
  match flusher.queue with
  | [] => ⟨.ok (), flusher, around, []⟩
  | line :: queue =>
    let flusher := { flusher with queue, pending := flusher.pending ++ line }
    -- The line is taken first, so a batch may outgrow the capacity by its last line.
    if flusher.capacity ≤ flusher.pending.size then flusher.drainBatch around
    else ⟨.ok (), flusher, around, []⟩

/-- The timer fires: what is pending is handed on. -/
def tick (flusher : Flusher δ) (around : ε) : FlusherStep δ ε :=
  if flusher.pending.isEmpty then ⟨.ok (), flusher, around, []⟩ else flusher.drainBatch around

/-- One move of the flusher's own; a dead flusher makes none. -/
def move (flusher : Flusher δ) (around : ε) (which : FlusherMove) : FlusherStep δ ε :=
  if flusher.alive then
    match which with
    | .receive => flusher.receive around
    | .tick => flusher.tick around
  else ⟨.ok (), flusher, around, []⟩

/-- Receives so many lines, one after the other. -/
def receiveMany : Nat → Flusher δ → ε → FlusherStep δ ε
  | 0, flusher, around => ⟨.ok (), flusher, around, []⟩
  | n + 1, flusher, around =>
    let first := flusher.move around .receive
    let rest := receiveMany n first.flusher first.around
    { rest with notices := first.notices ++ rest.notices }

def catchUp (flusher : Flusher δ) (around : ε) : FlusherStep δ ε :=
  receiveMany flusher.queue.length flusher around

/-- Hands everything sent to the stream, and tells the caller what it says. -/
def sync (flusher : Flusher δ) (around : ε) : FlusherStep δ ε :=
  let caught := flusher.catchUp around
  if caught.flusher.alive then
    let drained := caught.flusher.drain caught.around fun _ _ => []
    { drained with notices := caught.notices ++ drained.notices }
  else { caught with result := .error .flusherDead }

/-- Hands everything sent to the stream for the last time, and gives the stream up. A loss is
noted and also told to the caller. -/
def finish (flusher : Flusher δ) (around : ε) : FlusherStep δ ε :=
  let caught := flusher.catchUp around
  if caught.flusher.alive then
    let drained := caught.flusher.drain caught.around fun bytes fault =>
      [.finalBatchLost bytes fault]
    let notices := caught.notices ++ drained.notices
    -- After a crash the stream has been given up already.
    if drained.flusher.alive then
      let (stream, around) := ByteStream.release drained.flusher.stream drained.around
      ⟨drained.result, { drained.flusher with stream }, around, notices⟩
    else { drained with notices }
  else { caught with result := .error .flusherDead }

end Flusher

end Tapline
